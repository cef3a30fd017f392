import RespClient.Proofs.Decode.ErrorReplies
import RespClient.Session
import Mathlib.Data.List.Range

/-!
# The summary of a batch

A batch result lists its error replies and says whether every command succeeded. Reading a reply by
its position reports an error reply, too, and looks inside attributes, which the summary does not.
So the summary agrees with what the positions give wherever no attributes stand around an error
reply or a null (`BatchResult.summary_agrees`), and around one of these it does not
(`BatchResult.summary_misses_annotated`).
-/

set_option autoImplicit false

namespace RespClient

variable {revision : Revision} {message : Bytes}

/-! ## Error replies without attributes -/

namespace Reply

theorem withoutAttributes_of_kind_ne {r : Reply} (h : r.kind ≠ .attribute) :
    r.withoutAttributes = r := by
  cases r with
  | «attribute» attributes value => exact absurd rfl h
  | _ => rfl

/-- The view of an error message sees error replies that have no attributes. -/
theorem errorMessage?_eq_some_iff {r : Reply} :
    r.errorMessage? = some message ↔ r.IsErrorWith message ∧ r.kind ≠ .attribute := by
  constructor
  · intro h
    rcases eq_of_errorMessage? h with rfl | rfl
    · exact ⟨.error, nofun⟩
    · exact ⟨.bulkError, nofun⟩
  · rintro ⟨h, hkind⟩
    have hmessage := h.errorMessage?
    rw [withoutAttributes_of_kind_ne hkind] at hmessage
    exact hmessage

theorem isError_eq_false_iff {r : Reply} : r.isError = false ↔ r.errorMessage? = none := by
  cases r <;> simp [isError, Reply.errorMessage?]

/-- The reply with its attributes dropped is neither an error nor a null. -/
structure Answers (r : Reply) : Prop where
  not_error : ∀ message, ¬ r.IsErrorWith message
  not_null : r.withoutAttributes.isNull = false

/-- Without attributes, the views of a reply see what it is. -/
theorem answers_iff {r : Reply} (h : r.kind ≠ .attribute) :
    r.Answers ↔ r.isNull = false ∧ r.isError = false := by
  rw [isError_eq_false_iff, Option.eq_none_iff_forall_ne_some]
  constructor
  · rintro ⟨herror, hnull⟩
    rw [withoutAttributes_of_kind_ne h] at hnull
    exact ⟨hnull, fun message hmessage => herror message (errorMessage?_eq_some_iff.1 hmessage).1⟩
  · rintro ⟨hnull, herror⟩
    refine ⟨fun message hmessage => herror message (errorMessage?_eq_some_iff.2 ⟨hmessage, h⟩), ?_⟩
    rw [withoutAttributes_of_kind_ne h]
    exact hnull

/-- A reply with attributes looks like an answer, whatever the attributes are about. -/
theorem looks_answered_of_kind {r : Reply} (h : r.kind = .attribute) :
    r.isNull = false ∧ r.isError = false := by
  cases r with
  | «attribute» attributes value => exact ⟨rfl, rfl⟩
  | _ => cases h

end Reply

namespace BatchResult

variable {s : Shape} {replies : List Reply} {index : Nat} {text : String}

/-! ## Two views of a failed command -/

/-- The reply at the position is an error, with or without attributes, and reading it there gives
the error of the server with the given text. -/
structure FailsAt (result : BatchResult) (revision : Revision) (s : Shape) (index : Nat)
    (text : String) : Prop where
  isError : ∃ r message, result.replies[index]? = some r ∧ r.IsErrorWith message
  get_eq : result.get revision s index = .error (.server text)

/-- The summary of a batch says what reading its replies one by one says: the errors are the
positions that fail with their texts, in order, and all commands succeeded when no position fails
and no reply is null. -/
structure SummaryAgrees (result : BatchResult) (revision : Revision) (s : Shape) : Prop where
  inOrder : (result.errors.map Prod.fst).Pairwise (· < ·)
  listed_iff : ∀ index text,
    (index, text) ∈ result.errors ↔ result.FailsAt revision s index text
  succeeded_iff : result.allSucceeded = true ↔
    (∀ index text, ¬ result.FailsAt revision s index text) ∧
      ∀ r ∈ result.replies, r.withoutAttributes.isNull = false

theorem get_of_getElem? {result : BatchResult} {r : Reply} (h : result.replies[index]? = some r) :
    result.get revision s index = s.decode revision r := by
  rw [get, reply, h]
  rfl

/-- An error reply is reported at its position, whatever shape that is not raw is asked for. -/
theorem failsAt_iff (hraw : s.isRaw = false) :
    (ofReplies replies).FailsAt revision s index text ↔
      ∃ r message, replies[index]? = some r ∧ r.IsErrorWith message ∧
        Utf8.lossyString message = text := by
  have hget : ∀ r message, replies[index]? = some r → r.IsErrorWith message →
      (ofReplies replies).get revision s index = .error (.server (Utf8.lossyString message)) := by
    intro r message hr herror
    have hdecode : (ofReplies replies).get revision s index = s.decode revision r :=
      get_of_getElem? hr
    rw [hdecode]
    exact Shape.reports_of_not_raw s hraw _ message herror.errorMessage?
  constructor
  · rintro ⟨⟨r, message, hr, herror⟩, htext⟩
    rw [hget r message hr herror] at htext
    cases htext
    exact ⟨r, message, hr, herror, rfl⟩
  · rintro ⟨r, message, hr, herror, rfl⟩
    exact ⟨⟨r, message, hr, herror⟩, hget r message hr herror⟩

theorem mem_errors_iff : (index, text) ∈ (ofReplies replies).errors ↔
    ∃ r message, replies[index]? = some r ∧ r.errorMessage? = some message ∧
      Utf8.lossyString message = text := by
  simp only [errors, ofReplies, List.mem_filterMap, Option.map_eq_some_iff]
  constructor
  · rintro ⟨⟨r, position⟩, hr, message, hmessage, heq⟩
    cases heq
    exact ⟨r, message, List.mk_mem_zipIdx_iff_getElem?.1 hr, hmessage, rfl⟩
  · rintro ⟨r, message, hr, hmessage, rfl⟩
    exact ⟨(r, index), List.mk_mem_zipIdx_iff_getElem?.2 hr, message, hmessage, rfl⟩

/-- The positions of the errors grow. -/
theorem errors_inOrder (result : BatchResult) : (result.errors.map Prod.fst).Pairwise (· < ·) := by
  have hpositions : result.replies.zipIdx.Pairwise fun a b => a.2 < b.2 := by
    rw [← List.pairwise_map, List.zipIdx_map_snd]
    exact List.pairwise_lt_range' 1
  rw [List.pairwise_map]
  refine hpositions.filterMap _ ?_
  rintro ⟨r, index⟩ ⟨r', index'⟩ hlt e he e' he'
  obtain ⟨message, -, rfl⟩ := Option.map_eq_some_iff.1 he
  obtain ⟨message', -, rfl⟩ := Option.map_eq_some_iff.1 he'
  exact hlt

/-- The errors are the positions that fail and hold a reply without attributes. -/
theorem mem_errors_iff_failsAt (hraw : s.isRaw = false) :
    (index, text) ∈ (ofReplies replies).errors ↔
      (ofReplies replies).FailsAt revision s index text ∧
        ∀ r, replies[index]? = some r → r.kind ≠ .attribute := by
  rw [mem_errors_iff, failsAt_iff hraw]
  constructor
  · rintro ⟨r, message, hr, hmessage, htext⟩
    obtain ⟨herror, hkind⟩ := Reply.errorMessage?_eq_some_iff.1 hmessage
    refine ⟨⟨r, message, hr, herror, htext⟩, fun r' hr' => ?_⟩
    rw [hr] at hr'
    cases hr'
    exact hkind
  · rintro ⟨⟨r, message, hr, herror, htext⟩, hkind⟩
    exact ⟨r, message, hr, Reply.errorMessage?_eq_some_iff.2 ⟨herror, hkind r hr⟩, htext⟩

theorem no_failsAt_iff (hraw : s.isRaw = false) :
    (∀ index text, ¬ (ofReplies replies).FailsAt revision s index text) ↔
      ∀ r ∈ replies, ∀ message, ¬ r.IsErrorWith message := by
  constructor
  · intro h r hr message herror
    obtain ⟨index, hindex⟩ := List.mem_iff_getElem?.1 hr
    exact h index _ ((failsAt_iff hraw).2 ⟨r, message, hindex, herror, rfl⟩)
  · intro h index text hfails
    obtain ⟨r, message, hr, herror, -⟩ := (failsAt_iff hraw).1 hfails
    exact h r (List.mem_of_getElem? hr) message herror

/-- All commands succeeded when every reply is an answer, unless attributes hide one that is not. -/
theorem allSucceeded_iff (h : ∀ r ∈ replies, r.kind = .attribute → r.Answers) :
    (ofReplies replies).allSucceeded = true ↔ ∀ r ∈ replies, r.Answers := by
  have hviews : (ofReplies replies).allSucceeded = true ↔
      ∀ r ∈ replies, r.isNull = false ∧ r.isError = false := by simp [ofReplies]
  rw [hviews]
  refine forall₂_congr fun r hr => ?_
  by_cases hkind : r.kind = .attribute
  · exact iff_of_true (Reply.looks_answered_of_kind hkind) (h r hr hkind)
  · exact (Reply.answers_iff hkind).symm

/-! ## The summary and the replies -/

/-- The summary of a batch, also of one that was decoded from an array, lists exactly the positions
that fail and hold a reply without attributes. If every reply with attributes is an answer inside
them, it agrees with what reading the replies one by one gives. -/
theorem summary_agrees (s : Shape) (hraw : s.isRaw = false) (revision : Revision)
    (replies : List Reply) :
    Shape.batchResult.decode revision (.array replies) = .ok (ofReplies replies) ∧
    (∀ index text, (index, text) ∈ (ofReplies replies).errors ↔
      (ofReplies replies).FailsAt revision s index text ∧
        ∀ r, replies[index]? = some r → r.kind ≠ .attribute) ∧
    ((∀ r ∈ replies, r.kind = .attribute → r.Answers) →
      (ofReplies replies).SummaryAgrees revision s) := by
  have hlisted : ∀ index text, (index, text) ∈ (ofReplies replies).errors ↔
      (ofReplies replies).FailsAt revision s index text ∧
        ∀ r, replies[index]? = some r → r.kind ≠ .attribute :=
    fun index text => mem_errors_iff_failsAt hraw
  refine ⟨rfl, hlisted, fun h => ⟨errors_inOrder _, fun index text => ?_, ?_⟩⟩
  · rw [hlisted, and_iff_left_iff_imp]
    intro hfails r hr hkind
    -- a position that fails would hold an answer
    obtain ⟨r', message, hr', herror, -⟩ := (failsAt_iff hraw).1 hfails
    rw [hr] at hr'
    cases hr'
    exact (h r (List.mem_of_getElem? hr) hkind).not_error message herror
  · rw [allSucceeded_iff h, no_failsAt_iff hraw]
    exact ⟨fun hall => ⟨fun r hr => (hall r hr).not_error, fun r hr => (hall r hr).not_null⟩,
      fun ⟨herror, hnull⟩ r hr => ⟨herror r hr, hnull r hr⟩⟩

/-- An integer with attributes is an answer; the bulk error behind it is listed with its position,
and an alternative that takes any reply does not hide it. -/
theorem summary_agrees_bulkError :
    let attributes : List (Reply × Reply) := [(.bulk [107], .null)]
    let answered : Reply := .attribute attributes (.integer (.zero .int64))
    let replies : List Reply := [.simple [79, 75], answered, .bulkError [69]]
    let s : Shape := .oneOfTwo .string .reply
    s.isRaw = false ∧ (∀ r ∈ replies, r.kind = .attribute → r.Answers) ∧
      (ofReplies replies).FailsAt .third s 2 "E" ∧ (2, "E") ∈ (ofReplies replies).errors ∧
      (ofReplies replies).allSucceeded = false := by
  intro attributes answered replies s
  have hanswered : answered.Answers := ⟨fun message h => (nomatch h.errorMessage?), rfl⟩
  have hplain : ∀ r ∈ replies, r.kind = .attribute → r.Answers := by
    intro r hr hkind
    simp only [replies, List.mem_cons, List.not_mem_nil, or_false] at hr
    rcases hr with rfl | rfl | rfl
    · cases hkind
    · exact hanswered
    · cases hkind
  obtain ⟨-, -, hagrees⟩ := summary_agrees s rfl .third replies
  have hlisted : (2, "E") ∈ (ofReplies replies).errors :=
    mem_errors_iff.2 ⟨.bulkError [69], [69], rfl, rfl, by decide⟩
  have hfails := ((hagrees hplain).listed_iff 2 "E").1 hlisted
  refine ⟨rfl, hplain, hfails, hlisted, Bool.eq_false_iff.2 fun hsucceeded => ?_⟩
  exact ((hagrees hplain).succeeded_iff.1 hsucceeded).1 2 "E" hfails

/-- An error reply with attributes is not listed, although its position fails, and all commands seem
to have succeeded. They do so, too, when the only reply is a null with attributes. -/
theorem summary_misses_annotated :
    let attributes : List (Reply × Reply) := [(.bulk [107], .null)]
    let failed := ofReplies [.attribute attributes (.error [69])]
    let missing := ofReplies [.attribute attributes .null]
    let s : Shape := .integer .int64
    failed.get .third s 0 = .error (.server "E") ∧ failed.errors = [] ∧
      failed.allSucceeded = true ∧ missing.allSucceeded = true ∧
      ¬ ∀ (s : Shape) (revision : Revision) (replies : List Reply), s.isRaw = false →
        (ofReplies replies).SummaryAgrees revision s := by
  intro attributes failed missing s
  have hget : failed.get .third s 0 = .error (.server "E") := by
    have htext : Utf8.lossyString [69] = "E" := by decide
    rw [← htext]
    rfl
  refine ⟨hget, rfl, rfl, rfl, fun h => ?_⟩
  have hlisted := (h s .third [.attribute attributes (.error [69])] rfl).listed_iff 0 "E"
  exact nomatch hlisted.2 ⟨⟨_, [69], rfl, .withAttributes _ .error⟩, hget⟩

end BatchResult

end RespClient
