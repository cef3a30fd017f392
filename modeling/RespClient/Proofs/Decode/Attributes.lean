import RespClient.Proofs.Decode.Items
import RespClient.Proofs.Reply.Encoding
import RespClient.Shape.Decoding

/-!
# Errors do not depend on attributes

Attributes at any depth can be emptied without a change to whether a reply decodes, and to the error
if it does not (`Shape.blind_decode`). Most readers give the very same outcome for both replies. The
reply itself, batch results and what is made of them hold attributes in their values, so for
decoders in general only the errors are compared (`FailAlike`).
-/

set_option autoImplicit false

namespace RespClient

namespace Reply

/-! ## Replies with empty attributes -/

mutual

/-- The reply with all attributes in it empty. -/
def bare : Reply → Reply
  | .array items => .array (bareItems items)
  | .map entries => .map (bareEntries entries)
  | .set items => .set (bareItems items)
  | .push items => .push (bareItems items)
  | .attribute _ value => .attribute [] value.bare
  | reply => reply

/-- The items of a collection with all attributes in them empty. -/
def bareItems : List Reply → List Reply
  | [] => []
  | item :: items => item.bare :: bareItems items

/-- The entries of a map with all attributes in them empty. -/
def bareEntries : List (Reply × Reply) → List (Reply × Reply)
  | [] => []
  | (key, value) :: entries => (key.bare, value.bare) :: bareEntries entries

end

theorem bareItems_eq_map (items : List Reply) : bareItems items = items.map bare := by
  induction items with
  | nil => rfl
  | cons item items ih => rw [bareItems, ih, List.map_cons]

theorem bareEntries_eq_map (entries : List (Reply × Reply)) :
    bareEntries entries = entries.map (Prod.map bare bare) := by
  induction entries with
  | nil => rfl
  | cons entry entries ih =>
      rw [bareEntries, ih, List.map_cons]
      rfl

theorem withoutAttributes_bare (r : Reply) :
    r.bare.withoutAttributes = r.withoutAttributes.bare := by
  induction r using Reply.induction with
  | withAttributes attributes value _ ih => exact ih
  | _ => rfl

theorem innermost_bare (r : Reply) : r.bare.innermost = r.innermost.bare := by
  induction r using Reply.induction with
  | array items ih =>
      rcases items with _ | ⟨item, _ | ⟨second, rest⟩⟩
      · rfl
      · exact ih item List.mem_cons_self
      · rfl
  | _ => rfl

/-! ## Views of a reply -/

variable (r : Reply)

@[simp] theorem isAggregate_bare : r.bare.isAggregate = r.isAggregate := by
  cases r <;> rfl

@[simp] theorem text?_bare : r.bare.text? = r.text? := by
  cases r <;> rfl

@[simp] theorem unexpected_bare (expected : Expected) :
    Error.unexpected expected r.bare = .unexpected expected r := by
  cases r <;> rfl

end Reply

open Reply

/-! ## Outcomes that fail alike -/

/-- Both outcomes are the same error, or none of them is an error. -/
def FailAlike {α : Type} (x y : Except Error α) : Prop := ∀ e, x = .error e ↔ y = .error e

namespace FailAlike

variable {α β : Type} {x y x' y' : Except Error α}

theorem ok (a b : α) : FailAlike (.ok a) (.ok b) := by
  intro e
  exact ⟨nofun, nofun⟩

theorem of_eq (h : x = y) : FailAlike x y := by
  intro e
  rw [h]

theorem refl (x : Except Error α) : FailAlike x x :=
  of_eq rfl

/-- Outcomes that fail alike are the same error or two values. -/
theorem cases (h : FailAlike x y) :
    (∃ e, x = .error e ∧ y = .error e) ∨ ∃ a b, x = .ok a ∧ y = .ok b := by
  rcases x with e | a
  · exact Or.inl ⟨e, rfl, (h e).1 rfl⟩
  rcases y with e | b
  · cases (h e).2 rfl
  · exact Or.inr ⟨a, b, rfl, rfl⟩

theorem bind {f g : α → Except Error β} (h : FailAlike x y) (hnext : ∀ a b, FailAlike (f a) (g b)) :
    FailAlike (x >>= f) (y >>= g) := by
  rcases h.cases with ⟨e, rfl, rfl⟩ | ⟨a, b, rfl, rfl⟩
  · exact refl _
  · exact hnext a b

/-- The first steps give one value. -/
theorem bind_of_eq {f g : α → Except Error β} (h : x = y) (hnext : ∀ a, FailAlike (f a) (g a)) :
    FailAlike (x >>= f) (y >>= g) := by
  subst h
  cases x with
  | error e => exact refl _
  | ok a => exact hnext a

theorem map (f : α → β) (h : FailAlike x y) : FailAlike (x.map f) (y.map f) := by
  rcases h.cases with ⟨e, rfl, rfl⟩ | ⟨a, b, rfl, rfl⟩
  · exact refl _
  · exact ok _ _

theorem ite {c : Prop} [Decidable c] (h : FailAlike x y) (h' : FailAlike x' y') :
    FailAlike (if c then x else x') (if c then y else y') := by
  split
  · exact h
  · exact h'

theorem mapM {f : α → Except Error β} {emptied : α → α} {list : List α}
    (h : ∀ a ∈ list, FailAlike (f a) (f (emptied a))) :
    FailAlike (list.mapM f) ((list.map emptied).mapM f) := by
  induction list with
  | nil => exact refl _
  | cons a list ih =>
      obtain ⟨hhead, htail⟩ := List.forall_mem_cons.1 h
      rw [List.map_cons, List.mapM_cons, List.mapM_cons]
      exact hhead.bind fun _ _ => (ih htail).bind fun _ _ => ok _ _

theorem each : ∀ {n : Nat} {γ : Fin n → Type} {f g : (i : Fin n) → Except Error (γ i)},
    (∀ i, FailAlike (f i) (g i)) → FailAlike (readEach f) (readEach g)
  | 0, _, _, _, _ => refl _
  | _ + 1, _, _, _, h => (h 0).bind fun _ _ => (each fun i => h i.succ).bind fun _ _ => ok _ _

theorem orElse (h : FailAlike x y) (h' : FailAlike x' y') :
    FailAlike (orElse x x') (orElse y y') := by
  rcases h.cases with ⟨e, rfl, rfl⟩ | ⟨a, b, rfl, rfl⟩
  · exact ite h' (refl _)
  · exact ok _ _

end FailAlike

open FailAlike

variable {revision : Revision}

/-! ## Scalars -/

section Scalars

variable (r : Reply)

@[simp] theorem readText_bare : readText revision r.bare = readText revision r := by
  cases r <;> rfl

@[simp] theorem readString_bare : readString revision r.bare = readString revision r := by
  rw [readString, readText_bare, readString]

@[simp] theorem readInteger_bare (w : Width) : readInteger w r.bare = readInteger w r := by
  cases r <;> rfl

@[simp] theorem readDouble_bare : readDouble revision r.bare = readDouble revision r := by
  cases r <;> rfl

@[simp] theorem readSingle_bare : readSingle revision r.bare = readSingle revision r := by
  rw [readSingle, readDouble_bare, readSingle]

@[simp] theorem readTruth_bare : readTruth revision r.bare = readTruth revision r := by
  cases r <;> rfl

end Scalars

/-! ## Decoders -/

/-- A step on the two items of an array. -/
theorem FailAlike.twoItems {α : Type} {form : Form} {r : Reply}
    {f : Reply × Reply → Except Error α}
    (h : ∀ parts, FailAlike (f parts) (f (parts.map bare bare))) :
    FailAlike (twoItems form r >>= f) (twoItems form r.bare >>= f) := by
  cases r with
  | array items =>
      rcases items with _ | ⟨first, _ | ⟨second, _ | ⟨third, rest⟩⟩⟩
      · exact refl _
      · exact refl _
      · exact h (first, second)
      · apply of_eq
        simp only [bare, bareItems_eq_map, List.map_cons, RespClient.twoItems, error_bind,
          List.length_cons, List.length_map]
  | _ => exact refl _

namespace Decoder

variable {α β γ : Type}

/-- The decoder fails alike when attributes are emptied. -/
structure Blind (d : Decoder α) : Prop where
  reply : ∀ r, FailAlike (d.reply r) (d.reply r.bare)
  items : ∀ items, FailAlike (d.items items) (d.items (items.map bare))
  entries : ∀ entries, FailAlike (d.entries entries) (d.entries (entries.map (Prod.map bare bare)))

namespace Blind

variable {a : Decoder α} {b : Decoder β} {c : Decoder γ}

theorem ofReply {read : Reply → Except Error α} (h : ∀ r, FailAlike (read r) (read r.bare)) :
    (Decoder.ofReply read).Blind where
  reply := h
  items _ := mapM fun r _ => h r
  entries entries := by
    simp only [Decoder.ofReply, flattened_map]
    exact mapM fun r _ => h r

/-- The reader gives the same outcome when attributes are emptied. -/
theorem ofReply_of_eq {read : Reply → Except Error α} (h : ∀ r, read r.bare = read r) :
    (Decoder.ofReply read).Blind :=
  ofReply fun r => of_eq (h r).symm

theorem ofPair {pair : Reply × Reply → Except Error α} {single : Reply → Except Error α}
    (hpair : ∀ parts, FailAlike (pair parts) (pair (parts.map bare bare)))
    (hsingle : ∀ r, FailAlike (single r) (single r.bare)) : (Decoder.ofPair pair single).Blind where
  reply := hsingle
  items items := by
    cases items with
    | nil => exact refl _
    | cons first rest =>
        -- whether the items are flat, and how many there are, is the same for both
        simp only [Decoder.ofPair, pairedItems, List.map_cons, isAggregate_bare, List.length_cons,
          List.length_map]
        apply FailAlike.ite
        · exact mapM fun r _ => hsingle r
        · apply FailAlike.ite
          · exact refl _
          · rw [← List.map_cons, adjacentPairs_map]
            exact mapM fun parts _ => hpair parts
  entries _ := mapM fun parts _ => hpair parts

theorem sequence (h : a.Blind) (r : Reply) :
    FailAlike (a.sequence revision r) (a.sequence revision r.bare) := by
  cases r with
  | array items =>
      rw [bare, bareItems_eq_map]
      exact h.items items
  | set items =>
      rw [bare, bareItems_eq_map]
      exact ite (h.items items) (refl _)
  | map entries =>
      rw [bare, bareEntries_eq_map]
      exact ite (h.entries entries) (refl _)
  | _ => exact refl _

theorem optional (h : a.Blind) : a.optional.Blind := by
  apply ofReply
  intro r
  cases r with
  | null => exact refl _
  | _ => exact (h.reply _).map some

theorem both (h : a.Blind) (h' : b.Blind) (parts : Reply × Reply) :
    FailAlike (Decoder.both a b parts) (Decoder.both a b (parts.map bare bare)) :=
  (h.reply _).bind fun _ _ => (h'.reply _).bind fun _ _ => ok _ _

theorem pair (h : a.Blind) (h' : b.Blind) : (a.pair b).Blind := by
  apply ofPair (both h h')
  intro r
  rw [innermost_bare]
  exact .twoItems (both h h')

theorem tuple {n : Nat} {δ : Fin n → Type} {fields : (i : Fin n) → Decoder (δ i)}
    (h : ∀ i, (fields i).Blind) : (Decoder.tuple fields).Blind := by
  apply ofReply
  intro r
  cases r with
  | array items =>
      by_cases hlength : items.length = n
      · simp only [bare, bareItems_eq_map, List.length_map, hlength, ↓reduceDIte]
        apply each
        intro i
        simpa using (h i).reply _
      · simp only [bare, bareItems_eq_map, List.length_map, hlength, ↓reduceDIte]
        exact refl _
  | _ => exact refl _

theorem oneOfTwo (h : a.Blind) (h' : b.Blind) : (a.oneOfTwo b).Blind := by
  apply ofReply
  intro r
  rw [unexpected_bare]
  exact ((h.reply r).map _).orElse (((h'.reply r).map _).orElse (refl _))

theorem oneOfThree (h : a.Blind) (h' : b.Blind) (h'' : c.Blind) : (a.oneOfThree b c).Blind := by
  apply ofReply
  intro r
  rw [unexpected_bare]
  exact ((h.reply r).map _).orElse
    (((h'.reply r).map _).orElse (((h''.reply r).map _).orElse (refl _)))

end Blind

/-! ## Records -/

theorem blind_string : (Decoder.string revision).Blind :=
  .ofReply_of_eq readString_bare

theorem blind_stringPairs (r : Reply) :
    FailAlike (stringPairs revision r) (stringPairs revision r.bare) :=
  (blind_string.pair blind_string).sequence r

theorem blind_scanPage {d : Decoder α} (h : d.Blind) : (Decoder.scanPage revision d).Blind := by
  apply Blind.ofReply
  intro r
  apply FailAlike.twoItems
  rintro ⟨cursor, items⟩
  apply bind_of_eq (readText_bare cursor).symm
  intro text
  apply bind_of_eq rfl
  intro cursor
  exact (h.reply items).bind fun _ _ => ok _ _

theorem memberAndScore_bare (parts : Reply × Reply) :
    memberAndScore revision (parts.map bare bare) = memberAndScore revision parts := by
  simp only [memberAndScore, Prod.map, readString_bare, readDouble_bare]

theorem blind_scoredMember : (scoredMember revision).Blind := by
  have hparts : ∀ parts, FailAlike (memberAndScore revision parts)
      (memberAndScore revision (parts.map bare bare)) :=
    fun parts => of_eq (memberAndScore_bare parts).symm
  exact .ofPair hparts fun r => .twoItems hparts

theorem blind_geoPosition : (geoPosition revision).Blind := by
  apply Blind.ofReply
  intro r
  apply FailAlike.twoItems
  rintro ⟨longitude, latitude⟩
  apply FailAlike.of_eq
  simp only [Prod.map, readDouble_bare]

theorem streamId_bare (r : Reply) :
    (streamId revision).reply r.bare = (streamId revision).reply r := by
  simp only [streamId, ofReply, readString_bare]

theorem blind_streamEntry : (streamEntry revision).Blind := by
  apply Blind.ofReply
  intro r
  apply FailAlike.twoItems
  rintro ⟨id, fields⟩
  apply bind_of_eq (streamId_bare id).symm
  intro id
  cases fields with
  | null => exact refl _
  | _ => exact (blind_stringPairs _).bind fun _ _ => ok _ _

theorem clusterLines_bare (r : Reply) : clusterLines revision r.bare = clusterLines revision r := by
  rw [clusterLines, readString_bare, clusterLines]

theorem blind_memoryReport : (memoryReport revision).Blind := by
  apply Blind.ofReply
  intro r
  -- entries that are of no use are skipped, so the names and values of a report never fail
  cases r with
  | array items => exact ok _ _
  | map entries => exact ite (ok _ _) (refl _)
  | _ => exact refl _

theorem blind_batchResult : Decoder.batchResult.Blind := by
  apply Blind.ofReply
  intro r
  -- the result keeps its replies with their attributes, but refuses none of them
  cases r with
  | array items => exact ok _ _
  | _ => exact refl _

theorem blind_status : Decoder.status.Blind := by
  apply Blind.ofReply
  intro r
  cases r <;> exact refl _

theorem noticeItems_bare (r : Reply) :
    noticeItems revision r.bare = (noticeItems revision r).map (List.map bare) := by
  cases r with
  | array items =>
      rw [bare, bareItems_eq_map]
      rfl
  | push items =>
      rw [bare, bareItems_eq_map, noticeItems, noticeItems]
      split <;> rfl
  | _ => rfl

theorem blind_subscription : (subscription revision).Blind := by
  apply Blind.ofReply
  intro r
  simp only [noticeItems_bare]
  rcases noticeItems revision r with e | items
  · exact refl _
  rcases items with _ | ⟨kind, _ | ⟨channel, _ | ⟨count, _ | ⟨fourth, rest⟩⟩⟩⟩
  · exact refl _
  · exact refl _
  · exact refl _
  · -- the one length that is read
    apply bind_of_eq (readString_bare kind).symm
    intro kind
    apply (blind_string.optional.reply channel).bind
    intro _ _
    exact bind_of_eq (readInteger_bare count .int64).symm fun _ => ok _ _
  · apply FailAlike.of_eq
    simp only [Except.map, List.map_cons, ok_bind, List.length_cons, List.length_map]

theorem blind_searchDocument : (searchDocument revision).Blind := by
  apply Blind.ofReply
  intro r
  apply FailAlike.twoItems
  rintro ⟨id, body⟩
  apply bind_of_eq (readString_bare id).symm
  intro id
  exact (blind_stringPairs body).bind fun _ _ => ok _ _

theorem blind_documents : ∀ items,
    FailAlike (documents revision items) (documents revision (items.map bare))
  | [] => refl _
  | [id] => bind_of_eq (readString_bare id).symm fun _ => refl _
  | id :: body :: more => by
      apply bind_of_eq (readString_bare id).symm
      intro id
      simp only [isAggregate_bare]
      apply FailAlike.ite
      · apply (blind_stringPairs body).bind
        intro _ _
        exact (blind_documents more).bind fun _ _ => ok _ _
      · exact (blind_documents (body :: more)).bind fun _ _ => ok _ _

theorem blind_searchResults : (searchResults revision).Blind := by
  apply Blind.ofReply
  intro r
  cases r with
  | array items =>
      cases items with
      | nil => exact refl _
      | cons total rest =>
          rw [bare, bareItems_eq_map]
          apply (blind_documents rest).bind
          intro _ _
          exact bind_of_eq (readInteger_bare total .int64).symm fun _ => ok _ _
  | _ => exact refl _

end Decoder

/-! ## Loosely typed values -/

namespace Json

@[simp] theorem readName_bare (r : Reply) : readName r.bare = readName r := by
  simp only [readName, text?_bare, unexpected_bare]

@[simp] theorem isObject_map_bare (items : List Reply) :
    isObject (items.map bare) = isObject items := by
  simp only [isObject, List.length_map, adjacentPairs_map, List.all_map, Function.comp_def, isName,
    Prod.map, text?_bare]

theorem blind_ofMember {parts : Reply × Reply}
    (h : FailAlike (ofReply parts.2) (ofReply parts.2.bare)) :
    FailAlike (ofMember parts) (ofMember (parts.map bare bare)) :=
  bind_of_eq (readName_bare parts.1).symm fun _ => h.bind fun _ _ => ok _ _

theorem blind_ofItems {items : List Reply}
    (ih : ∀ r ∈ items, FailAlike (ofReply r) (ofReply r.bare)) :
    FailAlike (ofItems items) (ofItems (items.map bare)) := by
  rw [ofItems_eq_mapM, ofItems_eq_mapM]
  exact mapM ih

theorem blind_ofPairs {items : List Reply}
    (ih : ∀ r ∈ items, FailAlike (ofReply r) (ofReply r.bare)) :
    FailAlike (ofPairs items) (ofPairs (items.map bare)) := by
  rw [ofPairs_eq_mapM, ofPairs_eq_mapM, adjacentPairs_map]
  exact mapM fun parts hparts => blind_ofMember (ih _ (mem_of_mem_adjacentPairs hparts).2)

theorem blind_ofEntries {entries : List (Reply × Reply)}
    (ih : ∀ e ∈ entries, FailAlike (ofReply e.2) (ofReply e.2.bare)) :
    FailAlike (ofEntries entries) (ofEntries (entries.map (Prod.map bare bare))) := by
  rw [ofEntries_eq_mapM, ofEntries_eq_mapM]
  exact mapM fun entry hentry => blind_ofMember (ih entry hentry)

theorem blind_ofReply (r : Reply) : FailAlike (ofReply r) (ofReply r.bare) := by
  induction r using Reply.induction with
  | array items ih =>
      rw [bare, bareItems_eq_map, ofReply, ofReply, isObject_map_bare]
      exact ite ((blind_ofPairs ih).map _) ((blind_ofItems ih).map _)
  | push items ih =>
      rw [bare, bareItems_eq_map, ofReply, ofReply, isObject_map_bare]
      exact ite ((blind_ofPairs ih).map _) ((blind_ofItems ih).map _)
  | set items ih =>
      rw [bare, bareItems_eq_map, ofReply, ofReply]
      exact (blind_ofItems ih).map _
  | map entries ih =>
      rw [bare, bareEntries_eq_map, ofReply, ofReply]
      exact (blind_ofEntries fun entry hentry => (ih entry hentry).2).map _
  | withAttributes attributes value _ ihvalue =>
      rw [bare, ofReply, ofReply]
      exact ihvalue
  | _ => exact refl _

end Json

/-! ## Shapes -/

namespace Shape

open Decoder

/-- Every decoder fails alike when attributes are emptied. -/
theorem blind_decoder (s : Shape) : (s.decoder revision).Blind := by
  induction s with
  | reply => exact .ofReply fun _ => ok _ _
  | bytes => exact .ofReply_of_eq readText_bare
  | string => exact blind_string
  | integer w => exact .ofReply_of_eq fun r => readInteger_bare r w
  | double => exact .ofReply_of_eq readDouble_bare
  | single => exact .ofReply_of_eq readSingle_bare
  | truth => exact .ofReply_of_eq readTruth_bare
  | optional s ih => exact ih.optional
  | pair a b iha ihb => exact iha.pair ihb
  | tuple n fields ih => exact .tuple ih
  | list s ih => exact .ofReply ih.sequence
  | set s ih => exact .ofReply fun r => (ih.sequence r).map _
  | map key value ihkey ihvalue => exact .ofReply fun r => ((ihkey.pair ihvalue).sequence r).map _
  | oneOfTwo a b iha ihb => exact iha.oneOfTwo ihb
  | oneOfThree a b c iha ihb ihc => exact iha.oneOfThree ihb ihc
  | geoPosition => exact blind_geoPosition
  | score => exact .ofReply_of_eq fun r => congrArg _ (readDouble_bare r)
  | scoredMember => exact blind_scoredMember
  | streamId => exact .ofReply_of_eq streamId_bare
  | streamEntry => exact blind_streamEntry
  | scanPage s ih => exact blind_scanPage ih
  | clusterNode => exact .ofReply fun r => bind_of_eq (clusterLines_bare r).symm fun _ => refl _
  | clusterNodes => exact .ofReply fun r => bind_of_eq (clusterLines_bare r).symm fun _ => refl _
  | memoryReport => exact blind_memoryReport
  | batchResult => exact blind_batchResult
  | json => exact .ofReply Json.blind_ofReply
  | subscription => exact blind_subscription
  | status => exact blind_status
  | searchDocument => exact blind_searchDocument
  | searchResults => exact blind_searchResults

/-- A reply and the one with empty attributes fail alike. -/
theorem blind_decode (s : Shape) (revision : Revision) (r : Reply) :
    FailAlike (s.decode revision r) (s.decode revision r.bare) := by
  rw [decode, decode, withoutAttributes_bare]
  exact (blind_decoder s).reply r.withoutAttributes

end Shape

end RespClient
