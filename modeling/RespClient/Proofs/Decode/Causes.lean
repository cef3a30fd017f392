import RespClient.Proofs.Decode.Attributes

/-!
# Decode errors have their cause in the reply

A decoder that gives no value has refused some node of the reply, or found a node of a fitting kind
ill-formed. So a server error is the message of an error node, a mismatch names the kind of a node
that is no error, and the node is reached without entering attributes (`Shape.decode_error_cause`).
The proof follows the decoders: an error of theirs is caused by the replies that they were given,
and these are inside the replies that they were taken from.
-/

set_option autoImplicit false

namespace RespClient

namespace Reply

/-! ## What is inside a reply -/

/-- The replies directly inside a reply. Attributes are not among them. -/
def children : Reply → List Reply
  | .array items => items
  | .map entries => flattened entries
  | .set items => items
  | .push items => items
  | .attribute _ value => [value]
  | _ => []

/-- The node is the reply or inside it, and not in attributes. -/
inductive Inside (node : Reply) : Reply → Prop
  | self : Inside node node
  | child {r c : Reply} (hchild : c ∈ r.children) (h : Inside node c) : Inside node r

theorem Inside.trans {node middle r : Reply} (h : Inside node middle) (h' : Inside middle r) :
    Inside node r := by
  induction h' with
  | self => exact h
  | child hchild _ ih => exact .child hchild ih

theorem inside_of_mem {c r : Reply} (h : c ∈ r.children) : Inside c r :=
  .child h .self

theorem isError_of_errorMessage? {r : Reply} {message : Bytes}
    (h : r.errorMessage? = some message) : r.isError = true := by
  cases r with
  | error m => rfl
  | bulkError m => rfl
  | _ => cases h

theorem inside_withoutAttributes (r : Reply) : Inside r.withoutAttributes r := by
  induction r using Reply.induction with
  | withAttributes attributes value _ ih => exact .child List.mem_cons_self ih
  | _ => exact .self

/-- Arrays of one item are entered through this item. -/
theorem inside_innermost (r : Reply) : Inside r.innermost r := by
  induction r using Reply.induction with
  | array items ih =>
      rcases items with _ | ⟨item, _ | ⟨second, rest⟩⟩
      · exact .self
      · exact .child List.mem_cons_self (ih item List.mem_cons_self)
      · exact .self
  | _ => exact .self

end Reply

open Reply

/-! ## Errors with a cause -/

/-- The error is a fault of form, or it refuses a node inside one of the replies. -/
def Error.CausedBy (replies : List Reply) (e : Error) : Prop :=
  (∃ fault, e = .malformed fault) ∨
    ∃ expected node, (∃ r ∈ replies, Inside node r) ∧ e = .unexpected expected node

/-- An error that is no fault of form refuses a node inside the reply. -/
theorem Error.CausedBy.refused {r : Reply} {e : Error} (h : e.CausedBy [r])
    (hform : ∀ fault, e ≠ .malformed fault) :
    ∃ expected node, Inside node r ∧ e = .unexpected expected node := by
  rcases h with ⟨fault, rfl⟩ | ⟨expected, node, ⟨r', hr', hnode⟩, rfl⟩
  · exact absurd rfl (hform fault)
  · obtain rfl := List.mem_singleton.1 hr'
    exact ⟨expected, node, hnode, rfl⟩

/-- Only a node that is an error is refused with an error of the server, its own. -/
theorem eq_server_of_unexpected {expected : Expected} {node : Reply} {text : String}
    (h : Error.unexpected expected node = .server text) :
    ∃ message, node.errorMessage? = some message ∧ text = Utf8.lossyString message := by
  rw [Error.unexpected] at h
  split at h
  · next message hmessage =>
    cases h
    exact ⟨message, hmessage, rfl⟩
  · cases h

/-- A node that is refused by its kind is no error. -/
theorem eq_kind_of_unexpected {expected expected' : Expected} {node : Reply} {actual : Kind}
    (h : Error.unexpected expected node = .mismatch expected' actual) :
    node.kind = actual ∧ actual ≠ .error ∧ actual ≠ .bulkError := by
  cases node <;> cases h <;> exact ⟨rfl, nofun, nofun⟩

/-- If the outcome is an error, the replies have its cause. -/
def Caused {α : Type} (replies : List Reply) (outcome : Except Error α) : Prop :=
  ∀ e, outcome = .error e → e.CausedBy replies

namespace Caused

variable {α β : Type} {replies replies' : List Reply} {r : Reply} {x y : Except Error α}

theorem ok (a : α) : Caused replies (.ok a) := by
  intro e h
  cases h

theorem malformed (fault : Malformed) :
    Caused replies (.error (.malformed fault) : Except Error α) := by
  intro e h
  cases h
  exact Or.inl ⟨fault, rfl⟩

/-- A reply that is refused is a cause. -/
theorem unexpected {expected : Expected} :
    Caused [r] (.error (.unexpected expected r) : Except Error α) := by
  intro e h
  cases h
  exact Or.inr ⟨expected, r, ⟨r, List.mem_cons_self, .self⟩, rfl⟩

/-- Causes are looked for in more replies, or in those around the replies. -/
theorem mono (h : Caused replies x) (hinside : ∀ r ∈ replies, ∃ r' ∈ replies', Inside r r') :
    Caused replies' x := by
  intro e he
  rcases h e he with hfault | ⟨expected, node, ⟨r, hr, hnode⟩, rfl⟩
  · exact Or.inl hfault
  · obtain ⟨r', hr', hr⟩ := hinside r hr
    exact Or.inr ⟨expected, node, ⟨r', hr', hnode.trans hr⟩, rfl⟩

theorem of_mem (h : Caused [r] x) (hr : r ∈ replies) : Caused replies x := by
  apply h.mono
  intro r' hr'
  obtain rfl := List.mem_singleton.1 hr'
  exact ⟨r', hr, .self⟩

theorem of_subset (h : Caused replies x) (hsubset : replies ⊆ replies') : Caused replies' x :=
  h.mono fun r hr => ⟨r, hsubset hr, .self⟩

theorem of_children (h : Caused r.children x) : Caused [r] x :=
  h.mono fun _ hc => ⟨r, List.mem_cons_self, inside_of_mem hc⟩

theorem of_inside {node : Reply} (h : Caused [node] x) (hnode : Inside node r) : Caused [r] x := by
  apply h.mono
  intro r' hr'
  obtain rfl := List.mem_singleton.1 hr'
  exact ⟨r, List.mem_cons_self, hnode⟩

theorem ite {c : Prop} [Decidable c] (h : Caused replies x) (h' : Caused replies y) :
    Caused replies (if c then x else y) := by
  split
  · exact h
  · exact h'

theorem bind {f : α → Except Error β} (h : Caused replies x)
    (hnext : ∀ a, x = .ok a → Caused replies (f a)) : Caused replies (x >>= f) := by
  intro e he
  cases x with
  | error e' =>
      cases he
      exact h e rfl
  | ok a => exact hnext a rfl e he

theorem map (f : α → β) (h : Caused replies x) : Caused replies (x.map f) := by
  intro e he
  cases x with
  | error e' =>
      cases he
      exact h e rfl
  | ok a => cases he

/-- A step on each of two replies, one after the other. -/
theorem parts {γ : Type} {second : Reply} {z : Except Error β} {join : α → β → γ}
    (h : Caused [r] x) (h' : Caused [second] z) :
    Caused [r, second] (x >>= fun a => z >>= fun b => .ok (join a b)) := by
  apply (h.of_mem List.mem_cons_self).bind
  intro a _
  apply (h'.of_mem (List.mem_cons_of_mem _ List.mem_cons_self)).bind
  intro b _
  exact ok (join a b)

theorem mapM {f : α → Except Error β} {list : List α} (h : ∀ a ∈ list, Caused replies (f a)) :
    Caused replies (list.mapM f) := by
  induction list with
  | nil => exact ok []
  | cons a list ih =>
      obtain ⟨hhead, htail⟩ := List.forall_mem_cons.1 h
      rw [List.mapM_cons]
      apply hhead.bind
      intro b _
      apply (ih htail).bind
      intro bs _
      exact ok (b :: bs)

theorem each : ∀ {n : Nat} {γ : Fin n → Type} {f : (i : Fin n) → Except Error (γ i)},
    (∀ i, Caused replies (f i)) → Caused replies (readEach f)
  | 0, _, _, _ => ok _
  | _ + 1, _, _, h => (h 0).bind fun _ _ => (each fun i => h i.succ).bind fun _ _ => ok _

theorem orElse (h : Caused replies x) (h' : Caused replies y) :
    Caused replies (orElse x y) := by
  cases x with
  | ok a => exact ok a
  -- a decode error of the first alternative gives way to what the second one says
  | error e => exact ite h' h

end Caused

open Caused

variable {revision : Revision}

/-! ## Scalars -/

theorem caused_stringOfOctets (replies : List Reply) (octets : Bytes) :
    Caused replies (stringOfOctets octets) := by
  rw [stringOfOctets]
  split
  · exact ok _
  · exact malformed _

theorem caused_doubleOfOctets (replies : List Reply) (octets : Bytes) :
    Caused replies (doubleOfOctets octets) := by
  rw [doubleOfOctets]
  split
  · exact malformed _
  · simp only
    split
    · exact malformed _
    · exact ite (malformed _) (ok _)

theorem caused_readText (r : Reply) : Caused [r] (readText revision r) := by
  cases r with
  | simple text => exact ok _
  | bulk text => exact ok _
  | null => exact malformed _
  | verbatim format text => exact ite (ok _) unexpected
  | bigNumber digits => exact ite (ok _) unexpected
  | array items => exact ite unexpected (ok _)
  | _ => exact unexpected

theorem caused_readString (r : Reply) : Caused [r] (readString revision r) :=
  (caused_readText r).bind fun _ _ => caused_stringOfOctets _ _

theorem caused_readInteger (w : Width) (r : Reply) : Caused [r] (readInteger w r) := by
  cases r with
  | integer n =>
      rw [readInteger]
      split
      · exact ok _
      · exact malformed _
  | _ => exact unexpected

theorem caused_readDouble (r : Reply) : Caused [r] (readDouble revision r) := by
  cases r with
  | double x => exact ite (ok _) unexpected
  | integer n => exact ite (ok _) unexpected
  | _ => exact (caused_readText _).bind fun _ _ => caused_doubleOfOctets _ _

theorem caused_readSingle (r : Reply) : Caused [r] (readSingle revision r) :=
  (caused_readDouble r).bind fun _ _ => ite (malformed _) (ok _)

theorem caused_readTruth (r : Reply) : Caused [r] (readTruth revision r) := by
  cases r with
  | null => exact ok _
  | boolean b => exact ite (ok _) unexpected
  | integer n => exact ite (ok _) (ite (ok _) (malformed _))
  | _ => exact unexpected

/-! ## Decoders -/

/-- A step on the two items of an array. -/
theorem Caused.twoItems {α : Type} {form : Form} {r : Reply}
    {f : Reply × Reply → Except Error α} (h : ∀ parts, Caused [parts.1, parts.2] (f parts)) :
    Caused [r] (twoItems form r >>= f) := by
  cases r with
  | array items =>
      rcases items with _ | ⟨first, _ | ⟨second, _ | ⟨third, rest⟩⟩⟩
      · exact malformed _
      · exact malformed _
      · exact of_children (h (first, second))
      · exact malformed _
  | _ => exact unexpected.bind nofun

namespace Decoder

variable {α β γ : Type}

/-- Errors of the decoder have their causes in what it was given. -/
structure Traceable (d : Decoder α) : Prop where
  reply : ∀ r, Caused [r] (d.reply r)
  items : ∀ items, Caused items (d.items items)
  entries : ∀ entries, Caused (flattened entries) (d.entries entries)

namespace Traceable

variable {a : Decoder α} {b : Decoder β} {c : Decoder γ}

theorem ofReply {read : Reply → Except Error α} (h : ∀ r, Caused [r] (read r)) :
    (Decoder.ofReply read).Traceable where
  reply := h
  items _ := mapM fun r hr => (h r).of_mem hr
  entries _ := mapM fun r hr => (h r).of_mem hr

theorem ofPair {pair : Reply × Reply → Except Error α} {single : Reply → Except Error α}
    (hpair : ∀ parts, Caused [parts.1, parts.2] (pair parts))
    (hsingle : ∀ r, Caused [r] (single r)) : (Decoder.ofPair pair single).Traceable where
  reply := hsingle
  items items := by
    cases items with
    | nil => exact ok []
    | cons first rest =>
        -- flat or not, every reply that is read is one of the items
        refine ite (mapM fun r hr => (hsingle r).of_mem hr) (ite (malformed _) (mapM ?_))
        intro parts hparts
        obtain ⟨hfirst, hsecond⟩ := mem_of_mem_adjacentPairs hparts
        exact (hpair parts).of_subset (by simp [hfirst, hsecond])
  entries entries := by
    apply mapM
    intro entry hentry
    apply (hpair entry).of_subset
    intro r hr
    exact mem_flattened_iff.2 ⟨entry, hentry, by simpa using hr⟩

theorem sequence (h : a.Traceable) (r : Reply) : Caused [r] (a.sequence revision r) := by
  cases r with
  | array items => exact of_children (h.items items)
  | set items => exact ite (of_children (h.items items)) unexpected
  | map entries => exact ite (of_children (h.entries entries)) unexpected
  | _ => exact unexpected

theorem optional (h : a.Traceable) : a.optional.Traceable := by
  apply ofReply
  intro r
  cases r with
  | null => exact ok none
  | _ => exact (h.reply _).map some

theorem both (h : a.Traceable) (h' : b.Traceable) (parts : Reply × Reply) :
    Caused [parts.1, parts.2] (Decoder.both a b parts) :=
  Caused.parts (h.reply parts.1) (h'.reply parts.2)

theorem pair (h : a.Traceable) (h' : b.Traceable) : (a.pair b).Traceable :=
  ofPair (both h h') fun r => of_inside (.twoItems (both h h')) (inside_innermost r)

theorem tuple {n : Nat} {δ : Fin n → Type} {fields : (i : Fin n) → Decoder (δ i)}
    (h : ∀ i, (fields i).Traceable) : (Decoder.tuple fields).Traceable := by
  apply ofReply
  intro r
  cases r with
  | array items =>
      by_cases hlength : items.length = n
      · simp only [hlength, ↓reduceDIte]
        exact of_children (each fun i => ((h i).reply _).of_mem (List.get_mem items _))
      · simp only [hlength, ↓reduceDIte]
        exact malformed _
  | _ => exact unexpected

theorem oneOfTwo (h : a.Traceable) (h' : b.Traceable) : (a.oneOfTwo b).Traceable :=
  ofReply fun r => ((h.reply r).map _).orElse (((h'.reply r).map _).orElse unexpected)

theorem oneOfThree (h : a.Traceable) (h' : b.Traceable) (h'' : c.Traceable) :
    (a.oneOfThree b c).Traceable :=
  ofReply fun r => ((h.reply r).map _).orElse
    (((h'.reply r).map _).orElse (((h''.reply r).map _).orElse unexpected))

end Traceable

/-! ## Records -/

theorem traceable_string : (Decoder.string revision).Traceable :=
  .ofReply caused_readString

theorem caused_stringPairs (r : Reply) : Caused [r] (stringPairs revision r) :=
  (traceable_string.pair traceable_string).sequence r

theorem caused_cursorOfOctets (replies : List Reply) (octets : Bytes) :
    Caused replies (cursorOfOctets octets) := by
  rw [cursorOfOctets]
  refine ite (malformed _) ?_
  split
  · exact ok _
  · exact malformed _

theorem traceable_scanPage {d : Decoder α} (h : d.Traceable) :
    (Decoder.scanPage revision d).Traceable := by
  apply Traceable.ofReply
  intro r
  apply Caused.twoItems
  rintro ⟨cursor, items⟩
  have hcursor : Caused [cursor] (readText revision cursor >>= cursorOfOctets) :=
    (caused_readText cursor).bind fun _ _ => caused_cursorOfOctets _ _
  simpa only [bind_assoc] using Caused.parts hcursor (h.reply items)

theorem caused_memberAndScore (parts : Reply × Reply) :
    Caused [parts.1, parts.2] (memberAndScore revision parts) :=
  Caused.parts (caused_readString parts.1) (caused_readDouble parts.2)

theorem traceable_scoredMember : (scoredMember revision).Traceable :=
  .ofPair caused_memberAndScore fun _ => .twoItems caused_memberAndScore

theorem traceable_geoPosition : (geoPosition revision).Traceable := by
  apply Traceable.ofReply
  intro r
  apply Caused.twoItems
  rintro ⟨longitude, latitude⟩
  exact .parts (caused_readDouble longitude) (caused_readDouble latitude)

theorem traceable_streamId : (streamId revision).Traceable := by
  apply Traceable.ofReply
  intro r
  apply (caused_readString r).bind
  intro text _
  rw [StreamId.ofText]
  split
  · exact malformed _
  · split
    · exact ok _
    · exact malformed _

theorem traceable_streamEntry : (streamEntry revision).Traceable := by
  apply Traceable.ofReply
  intro r
  apply Caused.twoItems
  rintro ⟨id, fields⟩
  apply ((traceable_streamId.reply id).of_mem List.mem_cons_self).bind
  intro id _
  cases fields with
  | null => exact ok _
  | _ =>
      apply ((caused_stringPairs _).of_mem (List.mem_cons_of_mem _ List.mem_cons_self)).bind
      intro fields _
      exact ok _

theorem caused_clusterLines (r : Reply) : Caused [r] (clusterLines revision r) :=
  (caused_readString r).bind fun _ _ => ok _

theorem caused_ofLine (replies : List Reply) (line : List Char) :
    Caused replies (ClusterNode.ofLine line) := by
  rw [ClusterNode.ofLine]
  split
  · exact ok _
  · exact malformed _

theorem traceable_clusterNode : (clusterNode revision).Traceable := by
  apply Traceable.ofReply
  intro r
  apply (caused_clusterLines r).bind
  intro lines _
  cases lines with
  | nil => exact malformed _
  | cons line rest => exact caused_ofLine _ line

theorem traceable_clusterNodes : (clusterNodes revision).Traceable :=
  .ofReply fun r => (caused_clusterLines r).bind fun _ _ => mapM fun line _ => caused_ofLine _ line

theorem traceable_memoryReport : (memoryReport revision).Traceable := by
  apply Traceable.ofReply
  intro r
  cases r with
  | array items => exact ok _
  | map entries => exact ite (ok _) unexpected
  | _ => exact (caused_readText _).bind fun _ _ => ok _

theorem traceable_batchResult : Decoder.batchResult.Traceable := by
  apply Traceable.ofReply
  intro r
  cases r with
  | array items => exact ok _
  | null => exact ok _
  | _ => exact unexpected

theorem traceable_status : Decoder.status.Traceable := by
  apply Traceable.ofReply
  intro r
  cases r with
  | simple text => exact ok _
  | null => exact malformed _
  | _ => exact unexpected

/-- The items of a notice are inside it. -/
theorem noticeItems_eq_ok {r : Reply} {items : List Reply}
    (h : noticeItems revision r = .ok items) : items = r.children := by
  cases r with
  | array items' =>
      cases h
      rfl
  | push items' =>
      rw [noticeItems] at h
      split at h
      · cases h
        rfl
      · cases h
  | _ => cases h

theorem caused_noticeItems (r : Reply) : Caused [r] (noticeItems revision r) := by
  cases r with
  | array items => exact ok _
  | push items => exact ite (ok _) unexpected
  | _ => exact unexpected

theorem traceable_subscription : (subscription revision).Traceable := by
  apply Traceable.ofReply
  intro r
  apply (caused_noticeItems r).bind
  intro items hitems
  apply of_children
  rw [← noticeItems_eq_ok hitems]
  split
  · next kind channel count =>
    apply ((caused_readString kind).of_mem (by simp)).bind
    intro kind _
    apply ((traceable_string.optional.reply channel).of_mem (by simp)).bind
    intro channel _
    apply ((caused_readInteger .int64 count).of_mem (by simp)).bind
    intro count _
    exact ok _
  · exact malformed _

theorem traceable_searchDocument : (searchDocument revision).Traceable := by
  apply Traceable.ofReply
  intro r
  apply Caused.twoItems
  rintro ⟨id, body⟩
  exact .parts (caused_readString id) (caused_stringPairs body)

theorem caused_documents : ∀ items, Caused items (documents revision items)
  | [] => ok []
  | [id] => (caused_readString id).bind fun _ _ => ok _
  | id :: body :: more => by
      apply ((caused_readString id).of_mem List.mem_cons_self).bind
      intro id' _
      split
      · apply ((caused_stringPairs body).of_mem (List.mem_cons_of_mem _ List.mem_cons_self)).bind
        intro body' _
        apply ((caused_documents more).of_subset (by simp)).bind
        intro others _
        exact ok _
      · apply ((caused_documents (body :: more)).of_subset (List.subset_cons_self _ _)).bind
        intro others _
        exact ok _

theorem traceable_searchResults : (searchResults revision).Traceable := by
  apply Traceable.ofReply
  intro r
  cases r with
  | array items =>
      cases items with
      | nil => exact malformed _
      | cons total rest =>
          apply of_children
          -- the total is read after the documents, although it stands before them
          apply ((caused_documents rest).of_subset (List.subset_cons_self _ _)).bind
          intro found _
          apply ((caused_readInteger .int64 total).of_mem List.mem_cons_self).bind
          intro total _
          exact ok _
  | _ => exact unexpected

end Decoder

/-! ## Loosely typed values -/

namespace Json

theorem caused_readName (r : Reply) : Caused [r] (readName r) := by
  rw [readName]
  split
  · exact caused_stringOfOctets _ _
  · exact unexpected

theorem caused_readBigNumber (replies : List Reply) (digits : Bytes) :
    Caused replies (readBigNumber digits) := by
  rw [readBigNumber]
  split
  · exact ok _
  · exact malformed _

/-- Members are caused by their names and values, wherever these are. -/
theorem caused_ofMember {replies : List Reply} {parts : Reply × Reply} (hname : parts.1 ∈ replies)
    (hvalue : parts.2 ∈ replies) (ih : ∀ r ∈ replies, Caused [r] (ofReply r)) :
    Caused replies (ofMember parts) := by
  have hparts : Caused [parts.1, parts.2] (ofMember parts) :=
    .parts (caused_readName parts.1) (ih _ hvalue)
  exact hparts.of_subset (by simp [hname, hvalue])

theorem caused_ofItems {items : List Reply} (ih : ∀ r ∈ items, Caused [r] (ofReply r)) :
    Caused items (ofItems items) := by
  rw [ofItems_eq_mapM]
  exact mapM fun r hr => (ih r hr).of_mem hr

theorem caused_ofPairs {items : List Reply} (ih : ∀ r ∈ items, Caused [r] (ofReply r)) :
    Caused items (ofPairs items) := by
  rw [ofPairs_eq_mapM]
  apply mapM
  intro parts hparts
  obtain ⟨hname, hvalue⟩ := mem_of_mem_adjacentPairs hparts
  exact caused_ofMember hname hvalue ih

theorem caused_ofEntries {entries : List (Reply × Reply)}
    (ih : ∀ e ∈ entries, Caused [e.1] (ofReply e.1) ∧ Caused [e.2] (ofReply e.2)) :
    Caused (flattened entries) (ofEntries entries) := by
  rw [ofEntries_eq_mapM]
  apply mapM
  intro entry hentry
  apply caused_ofMember
  · exact mem_flattened_iff.2 ⟨entry, hentry, Or.inl rfl⟩
  · exact mem_flattened_iff.2 ⟨entry, hentry, Or.inr rfl⟩
  · intro r hr
    obtain ⟨entry', hentry', rfl | rfl⟩ := mem_flattened_iff.1 hr
    · exact (ih entry' hentry').1
    · exact (ih entry' hentry').2

theorem caused_ofReply (r : Reply) : Caused [r] (ofReply r) := by
  induction r using Reply.induction with
  | null => exact ok _
  | boolean b => exact ok _
  | integer n => exact ok _
  | double x => exact ok _
  | bigNumber digits => exact caused_readBigNumber _ _
  | simple text => exact (caused_stringOfOctets _ _).map _
  | bulk text => exact (caused_stringOfOctets _ _).map _
  | verbatim format text => exact (caused_stringOfOctets _ _).map _
  | error message => exact unexpected
  | bulkError message => exact unexpected
  | array items ih =>
      rw [ofReply]
      exact of_children (ite ((caused_ofPairs ih).map _) ((caused_ofItems ih).map _))
  | push items ih =>
      rw [ofReply]
      exact of_children (ite ((caused_ofPairs ih).map _) ((caused_ofItems ih).map _))
  | set items ih =>
      rw [ofReply]
      exact of_children ((caused_ofItems ih).map _)
  | map entries ih =>
      rw [ofReply]
      exact of_children ((caused_ofEntries ih).map _)
  | withAttributes attributes value _ ihvalue =>
      rw [ofReply]
      exact of_inside ihvalue (inside_of_mem List.mem_cons_self)

end Json

/-! ## Shapes -/

namespace Shape

open Decoder

/-- Every decoder finds the causes of its errors in what it was given. -/
theorem traceable_decoder (s : Shape) : (s.decoder revision).Traceable := by
  induction s with
  | reply => exact .ofReply fun r => ok r
  | bytes => exact .ofReply caused_readText
  | string => exact traceable_string
  | integer w => exact .ofReply (caused_readInteger w)
  | double => exact .ofReply caused_readDouble
  | single => exact .ofReply caused_readSingle
  | truth => exact .ofReply caused_readTruth
  | optional s ih => exact ih.optional
  | pair a b iha ihb => exact iha.pair ihb
  | tuple n fields ih => exact .tuple ih
  | list s ih => exact .ofReply ih.sequence
  | set s ih => exact .ofReply fun r => (ih.sequence r).map _
  | map key value ihkey ihvalue => exact .ofReply fun r => ((ihkey.pair ihvalue).sequence r).map _
  | oneOfTwo a b iha ihb => exact iha.oneOfTwo ihb
  | oneOfThree a b c iha ihb ihc => exact iha.oneOfThree ihb ihc
  | geoPosition => exact traceable_geoPosition
  | score => exact .ofReply fun r => (caused_readDouble r).map _
  | scoredMember => exact traceable_scoredMember
  | streamId => exact traceable_streamId
  | streamEntry => exact traceable_streamEntry
  | scanPage s ih => exact traceable_scanPage ih
  | clusterNode => exact traceable_clusterNode
  | clusterNodes => exact traceable_clusterNodes
  | memoryReport => exact traceable_memoryReport
  | batchResult => exact traceable_batchResult
  | json => exact .ofReply Json.caused_ofReply
  | subscription => exact traceable_subscription
  | status => exact traceable_status
  | searchDocument => exact traceable_searchDocument
  | searchResults => exact traceable_searchResults

theorem caused_decode (s : Shape) (revision : Revision) (r : Reply) :
    Caused [r] (s.decode revision r) :=
  of_inside ((traceable_decoder s).reply _) (inside_withoutAttributes r)

/-- A server error is the message of an error node. A mismatch names the kind of a node, which is
no error. Both nodes are outside of attributes, so without error nodes there is no server error, and
what attributes have in them makes no difference to any error. -/
theorem decode_error_cause (s : Shape) (revision : Revision) (r : Reply) :
    (∀ text, s.decode revision r = .error (.server text) →
      ∃ node message, Inside node r ∧ node.errorMessage? = some message ∧
        text = Utf8.lossyString message) ∧
    (∀ expected actual, s.decode revision r = .error (.mismatch expected actual) →
      actual ≠ .error ∧ actual ≠ .bulkError ∧ ∃ node, Inside node r ∧ node.kind = actual) ∧
    ((∀ node, Inside node r → node.isError = false) →
      ∀ text, s.decode revision r ≠ .error (.server text)) ∧
    ∀ e, s.decode revision r = .error e ↔ s.decode revision r.bare = .error e := by
  have hserver : ∀ text, s.decode revision r = .error (.server text) →
      ∃ node message, Inside node r ∧ node.errorMessage? = some message ∧
        text = Utf8.lossyString message := by
    intro text h
    obtain ⟨expected, node, hnode, hrefused⟩ := (caused_decode s revision r _ h).refused nofun
    obtain ⟨message, hmessage, rfl⟩ := eq_server_of_unexpected hrefused.symm
    exact ⟨node, message, hnode, hmessage, rfl⟩
  refine ⟨hserver, ?_, ?_, blind_decode s revision r⟩
  · intro expected actual h
    obtain ⟨expected', node, hnode, hrefused⟩ := (caused_decode s revision r _ h).refused nofun
    obtain ⟨rfl, herror, hbulkError⟩ := eq_kind_of_unexpected hrefused.symm
    exact ⟨herror, hbulkError, node, hnode, rfl⟩
  · intro hclean text h
    obtain ⟨node, message, hnode, hmessage, -⟩ := hserver text h
    have herror := isError_of_errorMessage? hmessage
    rw [hclean node hnode] at herror
    cases herror

/-- Errors in attributes and one outside of them: the last one is reported. As a list of strings the
array is refused where the inner attributes stand. -/
theorem decode_error_cause_nested :
    let hidden : Reply := .error [72]
    let attributes : List (Reply × Reply) := [(.bulk [107], hidden)]
    let r : Reply := .attribute attributes
      (.array [.attribute attributes (.array [.boolean true, .bulkError [69, 255]])])
    Shape.json.decode .third r = .error (.server "E\uFFFD") ∧
      (∃ node message, Inside node r ∧ node.errorMessage? = some message ∧
        "E\uFFFD" = Utf8.lossyString message) ∧
      (Shape.list .string).decode .second r = .error (.mismatch .string .attribute) ∧
      ∃ node, Inside node r ∧ node.kind = .attribute := by
  intro hidden attributes r
  have htext : Utf8.lossyString [69, 255] = "E\uFFFD" := by decide
  have hjson : Shape.json.decode .third r = .error (.server "E\uFFFD") := by
    rw [← htext]
    rfl
  have hlist : (Shape.list .string).decode .second r = .error (.mismatch .string .attribute) := rfl
  obtain ⟨hserver, -⟩ := decode_error_cause .json .third r
  obtain ⟨-, hmismatch, -⟩ := decode_error_cause (.list .string) .second r
  exact ⟨hjson, hserver _ hjson, hlist, (hmismatch _ _ hlist).2.2⟩

end Shape

end RespClient
