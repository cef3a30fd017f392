import RespClient.Proofs.Decode.Pairs
import RespClient.Proofs.Decode.Texts

/-!
# Fields read back

Stream entries and documents carry fields, which are names with values, all of them strings. Fields
are read back from each of the three forms of such a list (`Reply.ListsFields.stringPairs`).
-/

set_option autoImplicit false

namespace RespClient

namespace Reply

/-- Two replies carry a name and its value. -/
def CarryField (revision : Revision) (field : String × String) (row : Reply × Reply) : Prop :=
  row.1.Carries revision field.1.toList ∧ row.2.Carries revision field.2.toList

/-- The replies that list fields: an array in which names and values alternate, an array of arrays
of two or, under the third revision, a map. -/
inductive ListsFields (revision : Revision) (fields : List (String × String)) : Reply → Prop
  | flat {rows : List (Reply × Reply)} (h : List.Forall₂ (CarryField revision) fields rows) :
    ListsFields revision fields (.array (flattened rows))
  | nested {rows : List (Reply × Reply)} (h : List.Forall₂ (CarryField revision) fields rows) :
    ListsFields revision fields (.array (nested rows))
  | map {rows : List (Reply × Reply)} (hthird : revision = .third)
    (h : List.Forall₂ (CarryField revision) fields rows) : ListsFields revision fields (.map rows)

variable {revision : Revision} {fields : List (String × String)} {rows : List (Reply × Reply)}
  {body : Reply}

theorem ListsFields.isAggregate (h : ListsFields revision fields body) :
    body.isAggregate = true := by
  cases h <;> rfl

theorem mapM_both_of_carryField (h : List.Forall₂ (CarryField revision) fields rows) :
    rows.mapM (Decoder.both (.string revision) (.string revision)) = .ok fields := by
  rw [Decoder.mapM_both_eq_ok_iff]
  exact h.flip.imp fun _ _ hrow => ⟨hrow.1.readString_toList, hrow.2.readString_toList⟩

/-- Fields are read back from every reply that lists them. -/
theorem ListsFields.stringPairs (h : ListsFields revision fields body) :
    Decoder.stringPairs revision body = .ok fields := by
  have halike : ∀ rows : List (Reply × Reply),
      Decoder.ReadsAlike (Decoder.stringPairs revision) revision rows
        (rows.mapM (Decoder.both (.string revision) (.string revision))) :=
    fun rows => Decoder.readsAlike_ofPair fun _ _ => rfl
  cases h with
  | @flat rows hrows =>
      have hfirst : ∀ first ∈ rows.head?, first.1.isAggregate = false := by
        cases hrows with
        | nil => exact nofun
        | cons hrow _ =>
            rintro _ ⟨⟩
            exact hrow.1.isAggregate
      rw [(halike rows).flat hfirst, mapM_both_of_carryField hrows]
  | @nested rows hrows => rw [(halike rows).nested, mapM_both_of_carryField hrows]
  | @map rows hthird hrows => rw [(halike rows).map hthird, mapM_both_of_carryField hrows]

end Reply

end RespClient
