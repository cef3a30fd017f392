import Mathlib.Data.List.Basic
import Mathlib.Data.List.Induction
import Mathlib.Data.List.OfFn
import RespClient.Shape.Basic

/-!
# Maps in key order

The order of keys is total (`SortKey.compare_eq_iff`, `SortKey.compare_swap`,
`SortKey.compare_trans`), so putting an entry into an ordered map replaces the entry with its key
and no other. The ordered map of a list of entries has each key once (`Ordered.sorted_ofEntries`),
with the value that it had last (`Ordered.mem_ofEntries_iff`), and the ordered set of a list has its
items, each of them once (`Ordered.holdsItems_ofItems`). Results that can be keys are told apart by
their place in the order (`Shape.sortKey_injective`).
-/

set_option autoImplicit false

namespace RespClient

namespace SortKey

/-! ## The order of keys -/

/-- Induction on a key and the keys inside it. -/
@[elab_as_elim]
theorem induction {motive : SortKey → Prop} (number : ∀ n, motive (.number n))
    (list : ∀ keys, (∀ k ∈ keys, motive k) → motive (.list keys)) : ∀ k, motive k :=
  @SortKey.rec motive (fun keys => ∀ k ∈ keys, motive k) number list (by simp)
    (fun _ _ hhead htail => List.forall_mem_cons.2 ⟨hhead, htail⟩)

theorem compareLists_eq_iff {as : List SortKey} (h : ∀ a ∈ as, ∀ b, a.compare b = .eq ↔ a = b) :
    ∀ bs, compareLists as bs = .eq ↔ as = bs := by
  induction as with
  | nil =>
      intro bs
      cases bs <;> simp [compareLists]
  | cons a as ih =>
      obtain ⟨ha, has⟩ := List.forall_mem_cons.1 h
      intro bs
      cases bs with
      | nil => simp [compareLists]
      | cons b bs =>
          rw [List.cons.injEq, ← ha b, ← ih has bs]
          cases hab : a.compare b <;> simp [compareLists, hab]

/-- Only equal keys compare as equal. -/
theorem compare_eq_iff (a b : SortKey) : a.compare b = .eq ↔ a = b := by
  induction a using SortKey.induction generalizing b with
  | number n =>
      cases b with
      | number m => simp [SortKey.compare]
      | list bs => simp [SortKey.compare]
  | list as ih =>
      cases b with
      | number m => simp [SortKey.compare]
      | list bs => rw [SortKey.compare, compareLists_eq_iff ih, SortKey.list.injEq]

theorem compareLists_swap {as : List SortKey}
    (h : ∀ a ∈ as, ∀ b, (a.compare b).swap = b.compare a) :
    ∀ bs, (compareLists as bs).swap = compareLists bs as := by
  induction as with
  | nil =>
      intro bs
      cases bs <;> rfl
  | cons a as ih =>
      obtain ⟨ha, has⟩ := List.forall_mem_cons.1 h
      intro bs
      cases bs with
      | nil => rfl
      | cons b bs =>
          rw [compareLists, compareLists, ← ha b, ← ih has bs]
          cases a.compare b <;> rfl

theorem compare_swap (a b : SortKey) : (a.compare b).swap = b.compare a := by
  induction a using SortKey.induction generalizing b with
  | number n =>
      cases b with
      | number m => exact Std.OrientedOrd.eq_swap.symm
      | list bs => rfl
  | list as ih =>
      cases b with
      | number m => rfl
      | list bs => exact compareLists_swap ih bs

theorem compareLists_cons_lt_iff {a b : SortKey} {as bs : List SortKey} :
    compareLists (a :: as) (b :: bs) = .lt ↔
      a.compare b = .lt ∨ a = b ∧ compareLists as bs = .lt := by
  rw [← compare_eq_iff]
  cases hab : a.compare b <;> simp [compareLists, hab]

theorem compareLists_trans {as : List SortKey}
    (h : ∀ a ∈ as, ∀ b c, a.compare b = .lt → b.compare c = .lt → a.compare c = .lt) :
    ∀ bs cs, compareLists as bs = .lt → compareLists bs cs = .lt → compareLists as cs = .lt := by
  induction as with
  | nil =>
      intro bs cs hab hbc
      cases cs with
      | nil => cases bs <;> cases hbc
      | cons c cs => rfl
  | cons a as ih =>
      obtain ⟨ha, has⟩ := List.forall_mem_cons.1 h
      intro bs cs hab hbc
      rcases bs with _ | ⟨b, bs⟩
      · cases hab
      rcases cs with _ | ⟨c, cs⟩
      · cases hbc
      rw [compareLists_cons_lt_iff] at hab hbc ⊢
      -- the first place where one of the two steps differs decides
      rcases hab with hab | ⟨rfl, hab⟩
      · rcases hbc with hbc | ⟨rfl, -⟩
        · exact Or.inl (ha b c hab hbc)
        · exact Or.inl hab
      · rcases hbc with hbc | ⟨rfl, hbc⟩
        · exact Or.inl hbc
        · exact Or.inr ⟨rfl, ih has bs cs hab hbc⟩

theorem compare_trans {a b c : SortKey} (hab : a.compare b = .lt) (hbc : b.compare c = .lt) :
    a.compare c = .lt := by
  induction a using SortKey.induction generalizing b c with
  | number n =>
      cases c with
      | list cs => rfl
      | number k =>
          cases b with
          | list bs => cases hbc
          | number m => exact Int.compare_eq_lt.2 (Int.lt_trans (Int.compare_eq_lt.1 hab)
              (Int.compare_eq_lt.1 hbc))
  | list as ih =>
      cases b with
      | number m => cases hab
      | list bs =>
          cases c with
          | number k => cases hbc
          | list cs => exact compareLists_trans (fun a ha b c => ih a ha) bs cs hab hbc

theorem ne_of_compare_lt {a b : SortKey} (h : a.compare b = .lt) : a ≠ b := by
  rw [ne_eq, ← compare_eq_iff, h]
  exact nofun

theorem compare_lt_of_gt {a b : SortKey} (h : a.compare b = .gt) : b.compare a = .lt := by
  rw [← compare_swap, h]
  rfl

end SortKey

open SortKey

namespace Ordered

variable {α β : Type} {key : α → SortKey} {entries : List (α × β)} {k : α} {v : β}

/-! ## Entries in order -/

/-- The keys of the entries grow from each to the next. -/
def Sorted (key : α → SortKey) (entries : List (α × β)) : Prop :=
  entries.Pairwise fun entry later => (key entry.1).compare (key later.1) = .lt

/-- Putting an entry in leaves the entries with other keys, and no other. -/
theorem mem_insert_iff (h : Sorted key entries) (entry : α × β) :
    entry ∈ insert key k v entries ↔
      entry = (k, v) ∨ entry ∈ entries ∧ key entry.1 ≠ key k := by
  induction entries with
  | nil => simp [insert]
  | cons head rest ih =>
      obtain ⟨k', v'⟩ := head
      obtain ⟨hhead, hrest⟩ := List.pairwise_cons.1 h
      rw [insert]
      split
      · next hlt =>
        -- all keys that are there come after the new one
        have hother : ∀ e ∈ (k', v') :: rest, key e.1 ≠ key k := by
          intro e he
          rcases List.mem_cons.1 he with rfl | he
          · exact (ne_of_compare_lt hlt).symm
          · exact (ne_of_compare_lt (compare_trans hlt (hhead e he))).symm
        rw [List.mem_cons]
        exact or_congr_right (iff_self_and.2 (hother entry))
      · next heq =>
        rw [compare_eq_iff] at heq
        have hother : ∀ e ∈ rest, key e.1 ≠ key k := by
          intro e he
          rw [heq]
          exact (ne_of_compare_lt (hhead e he)).symm
        rw [List.mem_cons, List.mem_cons, or_and_right]
        apply or_congr_right
        constructor
        · intro he
          exact Or.inr ⟨he, hother entry he⟩
        · rintro (⟨rfl, hne⟩ | ⟨he, -⟩)
          · exact absurd heq.symm hne
          · exact he
      · next hgt =>
        have hne : key k' ≠ key k := ne_of_compare_lt (compare_lt_of_gt hgt)
        rw [List.mem_cons, List.mem_cons, ih hrest]
        constructor
        · rintro (rfl | rfl | ⟨he, hother⟩)
          · exact Or.inr ⟨Or.inl rfl, hne⟩
          · exact Or.inl rfl
          · exact Or.inr ⟨Or.inr he, hother⟩
        · rintro (rfl | ⟨rfl | he, hother⟩)
          · exact Or.inr (Or.inl rfl)
          · exact Or.inl rfl
          · exact Or.inr (Or.inr ⟨he, hother⟩)

theorem sorted_insert (h : Sorted key entries) : Sorted key (insert key k v entries) := by
  induction entries with
  | nil => exact List.pairwise_singleton _ _
  | cons head rest ih =>
      obtain ⟨k', v'⟩ := head
      obtain ⟨hhead, hrest⟩ := List.pairwise_cons.1 h
      rw [insert]
      split
      · next hlt =>
        refine List.pairwise_cons.2 ⟨fun e he => ?_, h⟩
        rcases List.mem_cons.1 he with rfl | he
        · exact hlt
        · exact compare_trans hlt (hhead e he)
      · next heq =>
        rw [compare_eq_iff] at heq
        refine List.pairwise_cons.2 ⟨fun e he => ?_, hrest⟩
        rw [heq]
        exact hhead e he
      · next hgt =>
        refine List.pairwise_cons.2 ⟨fun e he => ?_, ih hrest⟩
        rcases (mem_insert_iff hrest e).1 he with rfl | ⟨he, -⟩
        · exact compare_lt_of_gt hgt
        · exact hhead e he

/-! ## The map of a list of entries -/

theorem ofEntries_concat (entries : List (α × β)) (entry : α × β) :
    ofEntries key (entries ++ [entry]) = insert key entry.1 entry.2 (ofEntries key entries) := by
  rw [ofEntries, List.foldl_append]
  rfl

/-- The map of a list of entries has its keys in order. -/
theorem sorted_ofEntries (key : α → SortKey) (entries : List (α × β)) :
    Sorted key (ofEntries key entries) := by
  induction entries using List.reverseRecOn with
  | nil => exact List.Pairwise.nil
  | append_singleton entries entry ih =>
      rw [ofEntries_concat]
      exact sorted_insert ih

/-- The entry stands in the list, and none after it has its key. -/
def IsLast (key : α → SortKey) (entries : List (α × β)) (entry : α × β) : Prop :=
  ∃ before after, entries = before ++ entry :: after ∧ ∀ later ∈ after, key later.1 ≠ key entry.1

theorem isLast_concat_iff {last entry : α × β} :
    IsLast key (entries ++ [last]) entry ↔
      entry = last ∨ IsLast key entries entry ∧ key entry.1 ≠ key last.1 := by
  constructor
  · rintro ⟨before, after, hsplit, hlater⟩
    -- the entry is the last one itself, or the last one comes after it
    rcases List.eq_nil_or_concat after with rfl | ⟨after, later, rfl⟩
    · obtain ⟨-, hlast⟩ := List.append_inj' hsplit rfl
      exact Or.inl (List.singleton_inj.1 hlast).symm
    · rw [List.concat_eq_append, ← List.cons_append, ← List.append_assoc] at hsplit
      obtain ⟨rfl, hlast⟩ := List.append_inj' hsplit rfl
      obtain rfl := List.singleton_inj.1 hlast
      rw [List.concat_eq_append, List.forall_mem_append] at hlater
      exact Or.inr ⟨⟨before, after, rfl, hlater.1⟩, (hlater.2 _ List.mem_cons_self).symm⟩
  · rintro (rfl | ⟨⟨before, after, rfl, hlater⟩, hlast⟩)
    · exact ⟨entries, [], rfl, nofun⟩
    · refine ⟨before, after ++ [last], by rw [List.append_assoc, List.cons_append], ?_⟩
      rw [List.forall_mem_append, List.forall_mem_singleton]
      exact ⟨hlater, hlast.symm⟩

/-- The map of a list of entries has the last entry of each key. -/
theorem mem_ofEntries_iff (entries : List (α × β)) (entry : α × β) :
    entry ∈ ofEntries key entries ↔ IsLast key entries entry := by
  -- entries are put in from the first on, so the induction takes the last one off
  induction entries using List.reverseRecOn with
  | nil =>
      refine iff_of_false List.not_mem_nil ?_
      rintro ⟨before, after, hsplit, -⟩
      exact List.append_ne_nil_of_right_ne_nil before (List.cons_ne_nil _ after) hsplit.symm
  | append_singleton entries last ih =>
      rw [ofEntries_concat, mem_insert_iff (sorted_ofEntries key entries), ih, isLast_concat_iff]

/-- The map has each key of the entries once, with the value that it had last. -/
structure KeepsLast (entries map : List (α × β)) : Prop where
  mem_iff : ∀ entry, entry ∈ map ↔
    ∃ before after, entries = before ++ entry :: after ∧ ∀ later ∈ after, later.1 ≠ entry.1
  nodup : (map.map Prod.fst).Nodup

theorem keepsLast_ofEntries (hkey : Function.Injective key) (entries : List (α × β)) :
    KeepsLast entries (ofEntries key entries) where
  mem_iff entry := by
    simp only [mem_ofEntries_iff, IsLast, hkey.ne_iff]
  nodup := by
    -- keys that grow from each to the next are all different
    refine List.pairwise_map.2 ((sorted_ofEntries key entries).imp ?_)
    intro entry later h
    exact hkey.ne_iff.1 (ne_of_compare_lt h)

/-! ## The set of a list of items -/

theorem mem_keys_insert_iff (hkey : Function.Injective key) (h : Sorted key entries) {a : α} :
    a ∈ (insert key k v entries).map Prod.fst ↔ a = k ∨ a ∈ entries.map Prod.fst := by
  simp only [List.mem_map, mem_insert_iff h, hkey.ne_iff]
  constructor
  · rintro ⟨entry, rfl | ⟨hentry, -⟩, rfl⟩
    · exact Or.inl rfl
    · exact Or.inr ⟨entry, hentry, rfl⟩
  · rintro (rfl | ⟨entry, hentry, rfl⟩)
    · exact ⟨(a, v), Or.inl rfl, rfl⟩
    · by_cases hk : entry.1 = k
      · exact ⟨(k, v), Or.inl rfl, hk.symm⟩
      · exact ⟨entry, Or.inr ⟨hentry, hk⟩, rfl⟩

theorem mem_keys_ofEntries_iff (hkey : Function.Injective key) (entries : List (α × β)) {a : α} :
    a ∈ (ofEntries key entries).map Prod.fst ↔ a ∈ entries.map Prod.fst := by
  induction entries using List.reverseRecOn with
  | nil => rfl
  | append_singleton entries entry ih =>
      rw [ofEntries_concat, mem_keys_insert_iff hkey (sorted_ofEntries key entries), ih,
        List.map_append, List.mem_append, List.map_singleton, List.mem_singleton, or_comm]

/-- The set has the items of the list, each of them once. -/
structure HoldsItems (items set : List α) : Prop where
  mem_iff : ∀ item, item ∈ set ↔ item ∈ items
  nodup : set.Nodup

theorem holdsItems_ofItems (hkey : Function.Injective key) (items : List α) :
    HoldsItems items (ofItems key items) where
  mem_iff item := by
    rw [ofItems, mem_keys_ofEntries_iff hkey, List.map_map]
    exact iff_of_eq (congrArg (item ∈ ·) (List.map_id items))
  nodup := (keepsLast_ofEntries hkey _).nodup

end Ordered

namespace Shape

/-! ## Results that can be keys -/

/-- The results of the shape can be keys of a map or items of a set: they have an order. -/
def IsKey : Shape → Prop
  | .bytes => True
  | .string => True
  | .integer _ => True
  | .truth => True
  | .optional s => s.IsKey
  | .pair a b => a.IsKey ∧ b.IsKey
  | .tuple _ fields => ∀ i, (fields i).IsKey
  | .list s => s.IsKey
  | .set s => s.IsKey
  | .map key value => key.IsKey ∧ value.IsKey
  | .streamId => True
  | .status => True
  | _ => False

theorem ofString_injective : Function.Injective SortKey.ofString := by
  intro a b h
  refine String.toList_injective (List.map_injective_iff.2 ?_ (SortKey.list.inj h))
  intro c d hcd
  exact Char.toNat_inj.1 (Int.ofNat.inj (SortKey.number.inj hcd))

theorem ofBytes_injective : Function.Injective SortKey.ofBytes := by
  intro a b h
  refine List.map_injective_iff.2 ?_ (SortKey.list.inj h)
  intro c d hcd
  exact UInt8.toNat_inj.1 (Int.ofNat.inj (SortKey.number.inj hcd))

/-- Different keys stand at different places in the order. -/
theorem sortKey_injective (s : Shape) (h : s.IsKey) : Function.Injective s.sortKey := by
  induction s with
  | bytes => exact ofBytes_injective
  | string => exact ofString_injective
  | integer w =>
      intro a b hab
      exact Sized.ext (SortKey.number.inj hab)
  | truth =>
      intro a b hab
      cases a <;> cases b
      · rfl
      · cases hab
      · cases hab
      · rfl
  | optional s ih =>
      intro a b hab
      cases a <;> cases b
      · rfl
      · cases hab
      · cases hab
      · exact congrArg some (ih h (List.singleton_inj.1 (SortKey.list.inj hab)))
  | pair a b iha ihb =>
      intro x y hxy
      injection SortKey.list.inj hxy with hfirst hrest
      exact Prod.ext (iha h.1 hfirst) (ihb h.2 (List.singleton_inj.1 hrest))
  | tuple n fields ih =>
      intro x y hxy
      have hfields := List.ofFn_injective (SortKey.list.inj hxy)
      exact funext fun i => ih i (h i) (congrFun hfields i)
  | list s ih =>
      intro x y hxy
      exact List.map_injective_iff.2 (ih h) (SortKey.list.inj hxy)
  | set s ih =>
      intro x y hxy
      exact List.map_injective_iff.2 (ih h) (SortKey.list.inj hxy)
  | map key value ihkey ihvalue =>
      intro x y hxy
      refine List.map_injective_iff.2 ?_ (SortKey.list.inj hxy)
      intro entry entry' hentry
      injection SortKey.list.inj hentry with hfirst hrest
      exact Prod.ext (ihkey h.1 hfirst) (ihvalue h.2 (List.singleton_inj.1 hrest))
  | streamId =>
      intro x y hxy
      injection SortKey.list.inj hxy with hfirst hrest
      cases x
      cases y
      congr
      · exact Sized.ext (SortKey.number.inj hfirst)
      · exact Sized.ext (SortKey.number.inj (List.singleton_inj.1 hrest))
  | status =>
      intro x y hxy
      cases x
      cases y
      exact congrArg Status.mk (ofString_injective hxy)
  | _ => exact h.elim

end Shape

end RespClient
