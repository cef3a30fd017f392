import RespClient.Proofs.Decode.Items
import RespClient.Proofs.Decode.Ordered
import RespClient.Shape.Decoding

/-!
# Flat, nested and map replies

Names with values come in three forms: an array in which they alternate, an array of arrays of two,
and under the third revision a map. Lists of pairs, lists of scored members and maps decode alike
from all of them, with the same error if they do not (`Shape.decode_flat_nested_map`): the parts of
each entry are read in order, entry after entry. A flat array of odd length is refused.
-/

set_option autoImplicit false

namespace RespClient

/-- The entries of a map as arrays of two. -/
def nested (entries : List (Reply × Reply)) : List Reply :=
  entries.map fun entry => .array [entry.1, entry.2]

namespace Decoder

variable {α β γ : Type} {pair : Reply × Reply → Except Error α} {single : Reply → Except Error α}
  {revision : Revision} {entries : List (Reply × Reply)}

/-! ## Items of an array of pairs -/

section Items

variable {first : Reply} {rest : List Reply}

theorem pairedItems_of_isAggregate (h : first.isAggregate = true) :
    pairedItems pair single (first :: rest) = (first :: rest).mapM single :=
  if_pos h

theorem pairedItems_of_odd (h : first.isAggregate = false)
    (hodd : (first :: rest).length % 2 = 1) :
    pairedItems pair single (first :: rest) =
      .error (.malformed (.oddPairs (first :: rest).length)) := by
  rw [pairedItems, h, if_neg Bool.false_ne_true, if_pos hodd]

theorem pairedItems_of_even (h : first.isAggregate = false)
    (heven : (first :: rest).length % 2 = 0) :
    pairedItems pair single (first :: rest) = (adjacentPairs (first :: rest)).mapM pair := by
  have hodd : ¬ (first :: rest).length % 2 = 1 := by omega
  rw [pairedItems, h, if_neg Bool.false_ne_true, if_neg hodd]

end Items

theorem pairedItems_flattened (h : ∀ first ∈ entries.head?, first.1.isAggregate = false) :
    pairedItems pair single (flattened entries) = entries.mapM pair := by
  cases entries with
  | nil => rfl
  | cons first rest =>
      have heven : (flattened (first :: rest)).length % 2 = 0 := by
        rw [length_flattened]
        omega
      calc pairedItems pair single (flattened (first :: rest))
          = (adjacentPairs (flattened (first :: rest))).mapM pair :=
            pairedItems_of_even (h first rfl) heven
        _ = (first :: rest).mapM pair := by rw [adjacentPairs_flattened]

theorem pairedItems_nested (h : ∀ a b, single (.array [a, b]) = pair (a, b)) :
    pairedItems pair single (nested entries) = entries.mapM pair := by
  cases entries with
  | nil => rfl
  | cons first rest =>
      -- the first item is an array, so each item is read on its own
      calc pairedItems pair single (nested (first :: rest))
          = (nested (first :: rest)).mapM single := pairedItems_of_isAggregate rfl
        _ = (first :: rest).mapM pair := by
            rw [nested, List.mapM_map]
            exact congrArg (List.mapM · _) (funext fun entry => h entry.1 entry.2)

/-! ## Readers of pairs -/

/-- The outcome that a reader gives for entries in all their forms. -/
structure ReadsAlike (read : Reply → Except Error γ) (revision : Revision)
    (entries : List (Reply × Reply)) (outcome : Except Error γ) : Prop where
  nested : read (.array (nested entries)) = outcome
  flat : (∀ first ∈ entries.head?, first.1.isAggregate = false) →
    read (.array (flattened entries)) = outcome
  map : revision = .third → read (.map entries) = outcome

/-- The reader refuses flat arrays of odd length. -/
def RefusesOdd (read : Reply → Except Error γ) : Prop :=
  ∀ first rest, first.isAggregate = false → (first :: rest).length % 2 = 1 →
    read (.array (first :: rest)) = .error (.malformed (.oddPairs (first :: rest).length))

theorem readsAlike_ofPair (h : ∀ a b, single (.array [a, b]) = pair (a, b)) :
    ReadsAlike ((ofPair pair single).sequence revision) revision entries (entries.mapM pair) where
  nested := pairedItems_nested h
  flat := pairedItems_flattened
  map := by
    rintro rfl
    rfl

theorem refusesOdd_ofPair : RefusesOdd ((ofPair pair single).sequence revision) :=
  fun _ _ h hodd => pairedItems_of_odd h hodd

variable {read : Reply → Except Error β}

theorem ReadsAlike.mapOutcome {outcome : Except Error β} (f : β → γ)
    (h : ReadsAlike read revision entries outcome) :
    ReadsAlike (fun r => (read r).map f) revision entries (outcome.map f) where
  nested := congrArg (Except.map f) h.nested
  flat hflat := congrArg (Except.map f) (h.flat hflat)
  map hthird := congrArg (Except.map f) (h.map hthird)

theorem RefusesOdd.mapOutcome (f : β → γ) (h : RefusesOdd read) :
    RefusesOdd fun r => (read r).map f :=
  fun first rest hfirst hodd => congrArg (Except.map f) (h first rest hfirst hodd)

/-! ## Values in the order of their entries -/

theorem both_eq_ok_iff {a : Decoder α} {b : Decoder β} {parts : Reply × Reply} {value : α × β} :
    both a b parts = .ok value ↔ a.reply parts.1 = .ok value.1 ∧ b.reply parts.2 = .ok value.2 := by
  obtain ⟨x, y⟩ := value
  simp only [both, bind_eq_ok_iff, Except.ok.injEq, Prod.mk.injEq]
  constructor
  · rintro ⟨_, hx, _, hy, rfl, rfl⟩
    exact ⟨hx, hy⟩
  · rintro ⟨hx, hy⟩
    exact ⟨x, hx, y, hy, rfl, rfl⟩

theorem memberAndScore_eq_ok_iff {parts : Reply × Reply} {value : ScoredMember} :
    memberAndScore revision parts = .ok value ↔
      readString revision parts.1 = .ok value.member ∧
        readDouble revision parts.2 = .ok value.score := by
  obtain ⟨score, member⟩ := value
  simp only [memberAndScore, bind_eq_ok_iff, Except.ok.injEq, ScoredMember.mk.injEq]
  constructor
  · rintro ⟨_, hmember, _, hscore, rfl, rfl⟩
    exact ⟨hmember, hscore⟩
  · rintro ⟨hmember, hscore⟩
    exact ⟨member, hmember, score, hscore, rfl, rfl⟩

theorem mapM_both_eq_ok_iff {a : Decoder α} {b : Decoder β} {values : List (α × β)} :
    entries.mapM (both a b) = .ok values ↔
      List.Forall₂ (fun parts value => a.reply parts.1 = .ok value.1 ∧
        b.reply parts.2 = .ok value.2) entries values := by
  simp only [mapM_eq_ok_iff, both_eq_ok_iff]

theorem mapM_memberAndScore_eq_ok_iff {values : List ScoredMember} :
    entries.mapM (memberAndScore revision) = .ok values ↔
      List.Forall₂ (fun parts value => readString revision parts.1 = .ok value.member ∧
        readDouble revision parts.2 = .ok value.score) entries values := by
  simp only [mapM_eq_ok_iff, memberAndScore_eq_ok_iff]

end Decoder

namespace Shape

open Decoder Ordered

variable {s key value : Shape} {revision : Revision} {entries : List (Reply × Reply)}

/-! ## Shapes made of pairs -/

/-- Replies in these forms have no attributes to drop. -/
theorem readsAlike_decode {outcome : Except Error s.Carrier}
    (h : ReadsAlike (s.decoder revision).reply revision entries outcome) :
    ReadsAlike (s.decode revision) revision entries outcome :=
  ⟨h.nested, h.flat, h.map⟩

theorem refusesOdd_decode (h : RefusesOdd (s.decoder revision).reply) :
    RefusesOdd (s.decode revision) :=
  h

theorem readsAlike_pairs :
    ReadsAlike ((Shape.list (.pair key value)).decode revision) revision entries
      (entries.mapM (both (key.decoder revision) (value.decoder revision))) :=
  readsAlike_decode (readsAlike_ofPair fun _ _ => rfl)

theorem readsAlike_members :
    ReadsAlike ((Shape.list .scoredMember).decode revision) revision entries
      (entries.mapM (memberAndScore revision)) :=
  readsAlike_decode (readsAlike_ofPair fun _ _ => rfl)

theorem readsAlike_map :
    ReadsAlike ((Shape.map key value).decode revision) revision entries
      ((entries.mapM (both (key.decoder revision) (value.decoder revision))).map
        (ofEntries key.sortKey)) :=
  readsAlike_decode ((readsAlike_ofPair fun _ _ => rfl).mapOutcome _)

/-- Lists of pairs, lists of scored members and maps have one outcome for names and values in all
forms, which reads the parts of each entry in order and ends at the first that fails. Lists keep the
order of the entries, and maps the last value of each key. A flat array of odd length is refused. -/
theorem decode_flat_nested_map (key value : Shape) (revision : Revision)
    (entries : List (Reply × Reply)) :
    let pairs := Shape.list (.pair key value)
    let members := Shape.list .scoredMember
    let map := Shape.map key value
    let readPair := both (key.decoder revision) (value.decoder revision)
    let reply := Reply.array (nested entries)
    ReadsAlike (pairs.decode revision) revision entries (entries.mapM readPair) ∧
      ReadsAlike (members.decode revision) revision entries
        (entries.mapM (memberAndScore revision)) ∧
      ReadsAlike (map.decode revision) revision entries
        ((entries.mapM readPair).map (ofEntries key.sortKey)) ∧
      (∀ values : List (key.Carrier × value.Carrier), pairs.decode revision reply = .ok values ↔
        List.Forall₂ (fun parts result => (key.decoder revision).reply parts.1 = .ok result.1 ∧
          (value.decoder revision).reply parts.2 = .ok result.2) entries values) ∧
      (∀ values : List ScoredMember, members.decode revision reply = .ok values ↔
        List.Forall₂ (fun parts result => readString revision parts.1 = .ok result.member ∧
          readDouble revision parts.2 = .ok result.score) entries values) ∧
      (key.IsKey → ∀ sorted, map.decode revision reply = .ok sorted →
        ∃ values, pairs.decode revision reply = .ok values ∧ KeepsLast values sorted) ∧
      RefusesOdd (pairs.decode revision) ∧ RefusesOdd (members.decode revision) ∧
      RefusesOdd (map.decode revision) := by
  intro pairs members map readPair reply
  refine ⟨readsAlike_pairs, readsAlike_members, readsAlike_map, ?_, ?_, ?_,
    refusesOdd_decode refusesOdd_ofPair, refusesOdd_decode refusesOdd_ofPair,
    refusesOdd_decode (refusesOdd_ofPair.mapOutcome _)⟩
  · intro values
    rw [readsAlike_pairs.nested]
    exact mapM_both_eq_ok_iff
  · intro values
    rw [readsAlike_members.nested]
    exact mapM_memberAndScore_eq_ok_iff
  · intro hkey sorted hsorted
    rw [readsAlike_map.nested] at hsorted
    obtain ⟨values, hvalues, rfl⟩ := map_eq_ok_iff.1 hsorted
    exact ⟨values, readsAlike_pairs.nested.trans hvalues,
      keepsLast_ofEntries (sortKey_injective key hkey) values⟩

/-- A name that comes twice, the second time as a verbatim string, with collections as values. -/
theorem decode_flat_nested_map_repeated :
    let entries : List (Reply × Reply) := [(.bulk [98], .array []), (.simple [97], .array []),
      (.verbatim ⟨116, 120, 116⟩ [98], .array [.bulk [99], .simple [100]])]
    let map := Shape.map .string (.list .string)
    let sorted : List (String × List String) := [("a", []), ("b", ["c", "d"])]
    (∀ first ∈ entries.head?, first.1.isAggregate = false) ∧
      map.decode .third (.array (flattened entries)) = .ok sorted ∧
      map.decode .third (.array (nested entries)) = .ok sorted ∧
      map.decode .third (.map entries) = .ok sorted ∧ Shape.string.IsKey ∧
      ∃ values, (Shape.list (.pair .string (.list .string))).decode .third
        (.array (nested entries)) = .ok values ∧ KeepsLast values sorted := by
  intro entries map sorted
  obtain ⟨-, -, halike, -, -, hlast, -⟩ :=
    decode_flat_nested_map .string (.list .string) .third entries
  have hflat : ∀ first ∈ entries.head?, first.1.isAggregate = false := by
    rintro first ⟨⟩
    rfl
  have hnested : map.decode .third (.array (nested entries)) = .ok sorted := rfl
  have hsorted := halike.nested.symm.trans hnested
  exact ⟨hflat, (halike.flat hflat).trans hsorted, hnested, (halike.map rfl).trans hsorted,
    trivial, hlast trivial sorted hnested⟩

end Shape

end RespClient
