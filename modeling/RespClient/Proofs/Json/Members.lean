import Mathlib.Data.List.Sort
import RespClient.Json.Basic
import RespClient.Proofs.Text.Order
import RespClient.Proofs.Text.Utf8

/-!
# Members in the order of their names

The order of a map does not depend on its values (`Ordered.ofEntries_map`), and looking a name up in
it finds the last entry of that name (`lookupFirst_ofEntries`), where looking it up in the entries
finds the first. When no name repeats, the members in order are the members sorted by the octets of
their names (`Json.sortMembers_eq_sortByOctets`).
-/

set_option autoImplicit false

namespace RespClient

/-! ## Looking up a name -/

section Lookup

variable {α β : Type} {name k : String} {v : α} {entries : List (String × α)}

theorem lookupFirst_cons (name : String) (entry : String × α) (entries : List (String × α)) :
    lookupFirst name (entry :: entries) =
      if entry.1 = name then some entry.2 else lookupFirst name entries := by
  rw [lookupFirst, List.find?_cons]
  by_cases h : entry.1 = name
  · simp [h]
  · rw [beq_false_of_ne h, if_neg h, lookupFirst]

theorem lookupFirst_map (f : α → β) (name : String) (entries : List (String × α)) :
    lookupFirst name (entries.map (Prod.map id f)) = (lookupFirst name entries).map f := by
  induction entries with
  | nil => rfl
  | cons entry entries ih =>
      rw [List.map_cons, lookupFirst_cons, lookupFirst_cons, ih]
      simp only [Prod.map_fst, Prod.map_snd, id]
      split <;> rfl

theorem mem_of_lookupFirst (h : lookupFirst name entries = some v) : (name, v) ∈ entries := by
  induction entries with
  | nil => cases h
  | cons entry entries ih =>
      rw [lookupFirst_cons] at h
      split at h
      · next hname =>
        obtain rfl := Option.some.inj h
        rw [← hname]
        exact List.mem_cons_self
      · exact List.mem_cons_of_mem _ (ih h)

theorem lookupFirst_eq_none (h : name ∉ entries.map Prod.fst) :
    lookupFirst name entries = none := by
  induction entries with
  | nil => rfl
  | cons entry entries ih =>
      obtain ⟨hne, hentries⟩ := List.ne_and_not_mem_of_not_mem_cons h
      rw [lookupFirst_cons, if_neg (Ne.symm hne), ih hentries]

theorem lookupFirst_concat (name : String) (entries : List (String × α)) (entry : String × α) :
    lookupFirst name (entries ++ [entry]) =
      (lookupFirst name entries).or (if entry.1 = name then some entry.2 else none) := by
  induction entries with
  | nil => exact lookupFirst_cons name entry []
  | cons first entries ih =>
      rw [List.cons_append, lookupFirst_cons, lookupFirst_cons, ih]
      split <;> rfl

/-- The last entry of a name is the first when the name does not repeat. -/
theorem lookupFirst_reverse (h : (entries.map Prod.fst).count name ≤ 1) :
    lookupFirst name entries.reverse = lookupFirst name entries := by
  induction entries with
  | nil => rfl
  | cons entry entries ih =>
      rw [List.map_cons, List.count_cons] at h
      rw [List.reverse_cons, lookupFirst_concat, lookupFirst_cons]
      by_cases hname : entry.1 = name
      · have hnone : name ∉ entries.reverse.map Prod.fst := by
          rw [List.map_reverse, List.mem_reverse, ← List.count_eq_zero]
          simp only [hname, beq_self_eq_true, if_true] at h
          omega
        rw [lookupFirst_eq_none hnone, Option.none_or, if_pos hname, if_pos hname]
      · rw [ih (Nat.le_trans (Nat.le_add_right _ _) h), if_neg hname, if_neg hname, Option.or_none]

variable {key : String → SortKey}

theorem lookupFirst_insert (hkey : Function.Injective key) :
    lookupFirst name (Ordered.insert key k v entries) =
      if k = name then some v else lookupFirst name entries := by
  induction entries with
  | nil => exact lookupFirst_cons name (k, v) []
  | cons entry entries ih =>
      obtain ⟨k', v'⟩ := entry
      rw [Ordered.insert]
      split
      · exact lookupFirst_cons name (k, v) _
      · next heq =>
        -- the entry that is replaced has the same name
        obtain rfl : k = k' := hkey ((SortKey.compare_eq_iff _ _).1 heq)
        rw [lookupFirst_cons, lookupFirst_cons]
        split <;> rfl
      · next hgt =>
        have hne : k ≠ k' := fun heq =>
          SortKey.ne_of_compare_lt (SortKey.compare_lt_of_gt hgt) (congrArg key heq.symm)
        rw [lookupFirst_cons, lookupFirst_cons, ih]
        split_ifs <;> simp_all

/-- Looking a name up in an ordered map finds the last of its entries. -/
theorem lookupFirst_ofEntries (hkey : Function.Injective key) (name : String)
    (entries : List (String × α)) :
    lookupFirst name (Ordered.ofEntries key entries) = lookupFirst name entries.reverse := by
  induction entries using List.reverseRecOn with
  | nil => rfl
  | append_singleton entries entry ih =>
      rw [Ordered.ofEntries_concat, lookupFirst_insert hkey, ih, List.reverse_concat,
        lookupFirst_cons]

end Lookup

namespace Ordered

variable {α β γ : Type} {key : α → SortKey} {entries : List (α × β)} {k : α} {v : β}

theorem insert_map (f : β → γ) (k : α) (v : β) (entries : List (α × β)) :
    insert key k (f v) (entries.map (Prod.map id f)) =
      (insert key k v entries).map (Prod.map id f) := by
  induction entries with
  | nil => rfl
  | cons entry entries ih =>
      have hentry : Prod.map id f entry = (entry.1, f entry.2) := rfl
      rw [List.map_cons, hentry, insert, insert]
      cases (key k).compare (key entry.1) with
      | lt => rfl
      | eq => rfl
      | gt => exact congrArg ((entry.1, f entry.2) :: ·) ih

/-- The order of a map does not depend on its values. -/
theorem ofEntries_map (f : β → γ) (entries : List (α × β)) :
    ofEntries key (entries.map (Prod.map id f)) = (ofEntries key entries).map (Prod.map id f) := by
  induction entries using List.reverseRecOn with
  | nil => rfl
  | append_singleton entries entry ih =>
      rw [List.map_append, List.map_singleton, ofEntries_concat, ofEntries_concat, ih, Prod.map_fst,
        Prod.map_snd, id, insert_map]

theorem insert_eq_concat (h : ∀ entry ∈ entries, (key entry.1).compare (key k) = .lt) :
    insert key k v entries = entries ++ [(k, v)] := by
  induction entries with
  | nil => rfl
  | cons entry entries ih =>
      obtain ⟨hentry, hentries⟩ := List.forall_mem_cons.1 h
      have hgt : (key k).compare (key entry.1) = .gt := by
        rw [← SortKey.compare_swap, hentry]
        rfl
      rw [insert, hgt]
      exact congrArg (entry :: ·) (ih hentries)

/-- Entries in order are their own map. -/
theorem ofEntries_of_sorted (h : Sorted key entries) : ofEntries key entries = entries := by
  induction entries using List.reverseRecOn with
  | nil => rfl
  | append_singleton entries entry ih =>
      obtain ⟨hentries, -, hlast⟩ := List.pairwise_append.1 h
      rw [ofEntries_concat, ih hentries,
        insert_eq_concat fun e he => hlast e he entry List.mem_cons_self]

theorem mem_of_mem_ofEntries {entry : α × β} (h : entry ∈ ofEntries key entries) :
    entry ∈ entries := by
  obtain ⟨before, after, rfl, -⟩ := (mem_ofEntries_iff entries entry).1 h
  exact List.mem_append_right _ List.mem_cons_self

end Ordered

namespace Json

variable {members : List (String × Json)}

theorem sortMembers_map (f : Json → Json) (members : List (String × Json)) :
    sortMembers (members.map (Prod.map id f)) = (sortMembers members).map (Prod.map id f) :=
  Ordered.ofEntries_map f members

theorem sortMembers_sortMembers (members : List (String × Json)) :
    sortMembers (sortMembers members) = sortMembers members :=
  Ordered.ofEntries_of_sorted (Ordered.sorted_ofEntries _ members)

/-- The name of one member is at most that of the other, octet by octet. -/
def OctetsLE (member member' : String × Json) : Prop :=
  Utf8.ofString member.1 ≤ Utf8.ofString member'.1

instance : DecidableRel OctetsLE := fun _ _ => inferInstanceAs (Decidable (_ ≤ _))

instance : Std.Total OctetsLE := ⟨fun _ _ => List.le_total _ _⟩

instance : IsTrans (String × Json) OctetsLE := ⟨fun _ _ _ => List.le_trans⟩

/-- The members sorted by the octets of their names. -/
def sortByOctets (members : List (String × Json)) : List (String × Json) :=
  members.insertionSort OctetsLE

/-- Members whose names are all different are put in order by the octets of their names. -/
theorem sortMembers_eq_sortByOctets (h : (members.map Prod.fst).Nodup) :
    sortMembers members = sortByOctets members := by
  have hkeeps := Ordered.keepsLast_ofEntries Shape.ofString_injective members
  have hperm : (sortMembers members).Perm members := by
    refine (List.perm_ext_iff_of_nodup hkeeps.nodup.of_map h.of_map).2 fun member => ?_
    refine ⟨Ordered.mem_of_mem_ofEntries, fun hmember => (hkeeps.mem_iff member).2 ?_⟩
    -- no member after this one has its name
    obtain ⟨before, after, rfl⟩ := List.append_of_mem hmember
    rw [List.map_append, List.map_cons] at h
    have hafter := (List.nodup_cons.1 h.of_append_right).1
    exact ⟨before, after, rfl, fun later hlater heq =>
      hafter (heq ▸ List.mem_map_of_mem hlater)⟩
  have hsorted : (sortMembers members).Pairwise OctetsLE :=
    (Ordered.sorted_ofEntries _ members).imp fun hlt =>
      List.le_of_lt (Utf8.ofString_lt_of_compare hlt)
  refine List.Perm.eq_of_pairwise (fun member member' hmember hmember' hle hge => ?_) hsorted
    (List.pairwise_insertionSort OctetsLE members)
    (hperm.trans (List.perm_insertionSort OctetsLE members).symm)
  have hname : member.1 = member'.1 :=
    String.toList_injective (Utf8.encode_injective (List.le_antisymm hle hge))
  exact List.inj_on_of_nodup_map h (hperm.subset hmember)
    ((List.perm_insertionSort OctetsLE members).subset hmember') hname

end Json

end RespClient
