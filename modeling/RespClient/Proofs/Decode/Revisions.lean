import RespClient.Proofs.Outcome
import RespClient.Shape.Decoding

/-!
# The revisions do not disagree on a value

A reply that decodes under both revisions decodes to one value, for every shape that has no
alternatives in it (`Shape.decode_second_eq_third`). Where the readers of the two revisions differ,
one of them refuses the reply, so neither gives a value that the other one contradicts (`Concur`),
and this is kept when readers are put together. Alternatives do not keep it: the first one may fit
under one revision only, and then the values are of different alternatives.
-/

set_option autoImplicit false

namespace RespClient

variable {α β : Type}

/-! ## Outcomes that concur -/

/-- Two outcomes do not give different values. -/
def Concur (x y : Except Error α) : Prop := ∀ a b, x = .ok a → y = .ok b → a = b

namespace Concur

variable {x y : Except Error α}

theorem refl (x : Except Error α) : Concur x x := by
  intro a b ha hb
  rw [ha] at hb
  exact Except.ok.inj hb

theorem of_error_left (e : Error) (y : Except Error α) : Concur (.error e) y := by
  intro a b ha _
  cases ha

theorem of_error_right (x : Except Error α) (e : Error) : Concur x (.error e) := by
  intro a b _ hb
  cases hb

/-- Steps one after the other: the second steps start from one value. -/
theorem bind {f g : α → Except Error β} (h : Concur x y) (hnext : ∀ a, Concur (f a) (g a)) :
    Concur (x >>= f) (y >>= g) := by
  intro b b' hb hb'
  obtain ⟨a, ha, hf⟩ := bind_eq_ok_iff.1 hb
  obtain ⟨a', ha', hg⟩ := bind_eq_ok_iff.1 hb'
  obtain rfl := h a a' ha ha'
  exact hnext a b b' hf hg

theorem map (f : α → β) (h : Concur x y) : Concur (x.map f) (y.map f) := by
  intro b b' hb hb'
  rcases x with e | a
  · cases hb
  rcases y with e | a'
  · cases hb'
  cases hb
  cases hb'
  exact congrArg f (h a a' rfl rfl)

theorem mapM {f g : α → Except Error β} (h : ∀ a, Concur (f a) (g a)) (list : List α) :
    Concur (list.mapM f) (list.mapM g) := by
  induction list with
  | nil => exact refl _
  | cons a list ih =>
      rw [List.mapM_cons, List.mapM_cons]
      apply (h a).bind
      intro b
      apply ih.bind
      intro bs
      exact refl _

theorem each : ∀ {n : Nat} {γ : Fin n → Type} {f g : (i : Fin n) → Except Error (γ i)},
    (∀ i, Concur (f i) (g i)) → Concur (readEach f) (readEach g)
  | 0, _, _, _, _ => refl _
  | _ + 1, _, _, _, h => (h 0).bind fun _ => (each fun i => h i.succ).bind fun _ => refl _

end Concur

open Concur

/-! ## Scalars -/

theorem concur_readText (r : Reply) : Concur (readText .second r) (readText .third r) := by
  cases r with
  | array items => exact of_error_right _ _
  | bigNumber digits => exact of_error_left _ _
  | verbatim format text => exact of_error_left _ _
  | _ => exact refl _

theorem concur_readString (r : Reply) : Concur (readString .second r) (readString .third r) :=
  (concur_readText r).bind fun _ => refl _

theorem concur_readDouble (r : Reply) : Concur (readDouble .second r) (readDouble .third r) := by
  cases r with
  | integer n => exact of_error_left _ _
  | double x => exact of_error_left _ _
  | _ => exact (concur_readText _).bind fun _ => refl _

theorem concur_readSingle (r : Reply) : Concur (readSingle .second r) (readSingle .third r) :=
  (concur_readDouble r).bind fun _ => refl _

theorem concur_readTruth (r : Reply) : Concur (readTruth .second r) (readTruth .third r) := by
  cases r with
  | null => exact refl _
  | integer n => exact refl _
  | _ => exact of_error_left _ _

/-! ## Decoders that concur -/

namespace Decoder

/-- Two decoders concur on every reply, and on all items of an array. What they make of the entries
of a map does not matter, since the second revision reads no maps. -/
structure Concurs (d d' : Decoder α) : Prop where
  reply : ∀ r, Concur (d.reply r) (d'.reply r)
  items : ∀ items, Concur (d.items items) (d'.items items)

namespace Concurs

variable {d d' : Decoder α} {c c' : Decoder β}

theorem ofReply {read read' : Reply → Except Error α} (h : ∀ r, Concur (read r) (read' r)) :
    (Decoder.ofReply read).Concurs (Decoder.ofReply read') :=
  ⟨h, Concur.mapM h⟩

theorem ofPair {pair pair' : Reply × Reply → Except Error α}
    {single single' : Reply → Except Error α}
    (hpair : ∀ parts, Concur (pair parts) (pair' parts))
    (hsingle : ∀ r, Concur (single r) (single' r)) :
    (Decoder.ofPair pair single).Concurs (Decoder.ofPair pair' single') := by
  refine ⟨hsingle, fun items => ?_⟩
  -- whether the items are flat is the same for both
  cases items with
  | nil => exact refl _
  | cons first rest =>
      simp only [Decoder.ofPair, pairedItems]
      split
      · exact Concur.mapM hsingle _
      · split
        · exact refl _
        · exact Concur.mapM hpair _

theorem sequence (h : d.Concurs d') (r : Reply) :
    Concur (d.sequence .second r) (d'.sequence .third r) := by
  cases r with
  | array items => exact h.items items
  | _ => exact of_error_left _ _

theorem optional (h : d.Concurs d') : d.optional.Concurs d'.optional := by
  apply ofReply
  intro r
  cases r with
  | null => exact refl _
  | _ => exact (h.reply _).map some

theorem both (h : d.Concurs d') (h' : c.Concurs c') (parts : Reply × Reply) :
    Concur (Decoder.both d c parts) (Decoder.both d' c' parts) :=
  (h.reply _).bind fun _ => (h'.reply _).bind fun _ => refl _

theorem pair (h : d.Concurs d') (h' : c.Concurs c') : (d.pair c).Concurs (d'.pair c') :=
  ofPair (both h h') fun _ => (refl _).bind (both h h')

theorem tuple {n : Nat} {γ : Fin n → Type} {fields fields' : (i : Fin n) → Decoder (γ i)}
    (h : ∀ i, (fields i).Concurs (fields' i)) :
    (Decoder.tuple fields).Concurs (Decoder.tuple fields') := by
  apply ofReply
  intro r
  cases r with
  | array items =>
      by_cases hlength : items.length = n
      · simp only [hlength, ↓reduceDIte]
        exact each fun i => (h i).reply _
      · simp only [hlength, ↓reduceDIte]
        exact refl _
  | _ => exact refl _

theorem scanPage (h : d.Concurs d') :
    (Decoder.scanPage .second d).Concurs (.scanPage .third d') := by
  apply ofReply
  intro r
  apply (refl _).bind
  intro parts
  apply (concur_readText _).bind
  intro text
  apply (refl _).bind
  intro cursor
  exact (h.reply _).bind fun _ => refl _

end Concurs

/-! ## Records -/

theorem concurs_string : (Decoder.string .second).Concurs (.string .third) :=
  .ofReply concur_readString

theorem concur_stringPairs (r : Reply) : Concur (stringPairs .second r) (stringPairs .third r) :=
  (concurs_string.pair concurs_string).sequence r

theorem concur_memberAndScore (parts : Reply × Reply) :
    Concur (memberAndScore .second parts) (memberAndScore .third parts) :=
  (concur_readString _).bind fun _ => (concur_readDouble _).bind fun _ => refl _

theorem concurs_scoredMember : (scoredMember .second).Concurs (scoredMember .third) :=
  .ofPair concur_memberAndScore fun _ => (refl _).bind concur_memberAndScore

theorem concurs_geoPosition : (geoPosition .second).Concurs (geoPosition .third) :=
  .ofReply fun _ => (refl _).bind fun _ => (concur_readDouble _).bind fun _ =>
    (concur_readDouble _).bind fun _ => refl _

theorem concurs_streamId : (streamId .second).Concurs (streamId .third) :=
  .ofReply fun r => (concur_readString r).bind fun _ => refl _

theorem concurs_streamEntry : (streamEntry .second).Concurs (streamEntry .third) := by
  apply Concurs.ofReply
  intro r
  apply (refl _).bind
  rintro ⟨id, fields⟩
  apply (concurs_streamId.reply id).bind
  intro id
  cases fields with
  | null => exact refl _
  | _ => exact (concur_stringPairs _).bind fun _ => refl _

theorem concur_clusterLines (r : Reply) : Concur (clusterLines .second r) (clusterLines .third r) :=
  (concur_readString r).bind fun _ => refl _

theorem concurs_memoryReport : (memoryReport .second).Concurs (memoryReport .third) := by
  apply Concurs.ofReply
  intro r
  cases r with
  | array items => exact refl _
  | map entries => exact of_error_left _ _
  | _ => exact (concur_readText _).bind fun _ => refl _

theorem concurs_subscription : (subscription .second).Concurs (subscription .third) := by
  apply Concurs.ofReply
  intro r
  have hitems : Concur (noticeItems .second r) (noticeItems .third r) := by
    cases r with
    | array items => exact refl _
    | _ => exact of_error_left _ _
  apply hitems.bind
  intro items
  split
  · next kind channel count =>
    apply (concur_readString kind).bind
    intro kind
    apply (concurs_string.optional.reply channel).bind
    intro channel
    exact refl _
  · exact refl _

/-- Which items are ids and which are bodies is the same for both. -/
theorem concur_documents : ∀ items, Concur (documents .second items) (documents .third items)
  | [] => refl _
  | [id] => (concur_readString id).bind fun _ => refl _
  | id :: body :: more => by
      apply (concur_readString id).bind
      intro id
      split
      · apply (concur_stringPairs body).bind
        intro body
        exact (concur_documents more).bind fun _ => refl _
      · exact (concur_documents (body :: more)).bind fun _ => refl _

theorem concurs_searchDocument : (searchDocument .second).Concurs (searchDocument .third) :=
  .ofReply fun _ => (refl _).bind fun _ => (concur_readString _).bind fun _ =>
    (concur_stringPairs _).bind fun _ => refl _

theorem concurs_searchResults : (searchResults .second).Concurs (searchResults .third) := by
  apply Concurs.ofReply
  intro r
  cases r with
  | array items =>
      cases items with
      | nil => exact refl _
      | cons total rest => exact (concur_documents rest).bind fun _ => refl _
  | _ => exact refl _

end Decoder

/-! ## Shapes -/

namespace Shape

open Decoder

/-- The shape has no alternatives in it. -/
def WithoutAlternatives : Shape → Prop
  | .oneOfTwo _ _ => False
  | .oneOfThree _ _ _ => False
  | .optional s => s.WithoutAlternatives
  | .pair a b => a.WithoutAlternatives ∧ b.WithoutAlternatives
  | .tuple _ fields => ∀ i, (fields i).WithoutAlternatives
  | .list s => s.WithoutAlternatives
  | .set s => s.WithoutAlternatives
  | .map key value => key.WithoutAlternatives ∧ value.WithoutAlternatives
  | .scanPage s => s.WithoutAlternatives
  | _ => True

/-- The decoders of the two revisions concur. -/
theorem concurs_decoder (s : Shape) (h : s.WithoutAlternatives) :
    (s.decoder .second).Concurs (s.decoder .third) := by
  induction s with
  | reply => exact .ofReply fun _ => refl _
  | bytes => exact .ofReply concur_readText
  | string => exact concurs_string
  | integer w => exact .ofReply fun _ => refl _
  | double => exact .ofReply concur_readDouble
  | single => exact .ofReply concur_readSingle
  | truth => exact .ofReply concur_readTruth
  | optional s ih => exact (ih h).optional
  | pair a b iha ihb => exact (iha h.1).pair (ihb h.2)
  | tuple n fields ih => exact .tuple fun i => ih i (h i)
  | list s ih => exact .ofReply (ih h).sequence
  | set s ih => exact .ofReply fun r => ((ih h).sequence r).map _
  | map key value ihkey ihvalue =>
      exact .ofReply fun r => (((ihkey h.1).pair (ihvalue h.2)).sequence r).map _
  | oneOfTwo a b => exact h.elim
  | oneOfThree a b c => exact h.elim
  | geoPosition => exact concurs_geoPosition
  | score => exact .ofReply fun r => (concur_readDouble r).map Score.mk
  | scoredMember => exact concurs_scoredMember
  | streamId => exact concurs_streamId
  | streamEntry => exact concurs_streamEntry
  | scanPage s ih => exact (ih h).scanPage
  | clusterNode => exact .ofReply fun r => (concur_clusterLines r).bind fun _ => refl _
  | clusterNodes => exact .ofReply fun r => (concur_clusterLines r).bind fun _ => refl _
  | memoryReport => exact concurs_memoryReport
  | batchResult => exact .ofReply fun _ => refl _
  | json => exact .ofReply fun _ => refl _
  | subscription => exact concurs_subscription
  | status => exact .ofReply fun _ => refl _
  | searchDocument => exact concurs_searchDocument
  | searchResults => exact concurs_searchResults

/-- A reply that decodes under both revisions decodes to one value, unless the shape has
alternatives. -/
theorem decode_second_eq_third (s : Shape) (h : s.WithoutAlternatives) (r : Reply)
    (x y : s.Carrier) (hx : s.decode .second r = .ok x) (hy : s.decode .third r = .ok y) : x = y :=
  (concurs_decoder s h).reply r.withoutAttributes x y hx hy

/-- A page whose items are a flat array, in an array that has attributes. -/
theorem decode_second_eq_third_page :
    let s : Shape := .scanPage (.map .string (.list (.optional (.integer .int64))))
    let items : Reply := .array [.bulk [97], .array [.integer (.ofNat 5 (by decide)), .null]]
    let attributes : List (Reply × Reply) := [(.bulk [107], .null)]
    let r : Reply := .attribute attributes (.array [.bulk [55], items])
    s.WithoutAlternatives ∧
      ∃ x y, s.decode .second r = .ok x ∧ s.decode .third r = .ok y ∧ x = y := by
  intro s items attributes r
  have hplain : s.WithoutAlternatives := ⟨trivial, trivial⟩
  exact ⟨hplain, _, _, rfl, rfl, decode_second_eq_third s hplain r _ _ rfl rfl⟩

/-- With alternatives the values differ: under the second revision an array is a string, too. -/
example : (Shape.oneOfTwo .string (.list .string)).decode .second (.array []) = .ok (.inl "PONG") ∧
    (Shape.oneOfTwo .string (.list .string)).decode .third (.array []) = .ok (.inr []) :=
  ⟨rfl, rfl⟩

end Shape

end RespClient
