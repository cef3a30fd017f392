import RespClient.Proofs.Decode.Failures

/-!
# Alternatives are tried in order

The result of alternatives is that of the first one that takes the reply, if all before it refused
the reply with decode errors. An error of another kind is final, and is the error of an error reply
somewhere in the reply; if all alternatives refuse, it is the reply without its attributes that is
reported (`Shape.decode_oneOfThree_in_order`, `Shape.decode_oneOfThree_annotated`). Three
alternatives are two, the second of which is again two, up to the name in this last error.
-/

set_option autoImplicit false

namespace RespClient

open Reply

variable {α β γ : Type}

/-! ## Outcomes -/

/-- The outcome is a decode error: the next alternative is tried. -/
def IsRefusal (outcome : Except Error α) : Prop := ∃ e, outcome = .error e ∧ e.isDecode = true

/-- The outcome is an error of another kind: no other alternative is tried. -/
def EndsWith (outcome : Except Error α) (e : Error) : Prop :=
  outcome = .error e ∧ e.isDecode = false

section OrElse

variable {x next : Except Error α} {f : α → β} {a : α} {e : Error}

theorem isRefusal_map_iff : IsRefusal (x.map f) ↔ IsRefusal x := by
  simp only [IsRefusal, map_eq_error_iff]

theorem endsWith_map_iff : EndsWith (x.map f) e ↔ EndsWith x e := by
  rw [EndsWith, EndsWith, map_eq_error_iff]

theorem orElse_of_isRefusal (h : IsRefusal x) : orElse x next = next := by
  obtain ⟨e, rfl, he⟩ := h
  exact if_pos he

theorem orElse_of_endsWith (h : EndsWith x e) : orElse x next = .error e := by
  obtain ⟨rfl, he⟩ := h
  rw [orElse, he]
  exact if_neg Bool.false_ne_true

theorem value_or_refusal_or_end (x : Except Error α) :
    (∃ a, x = .ok a) ∨ IsRefusal x ∨ ∃ e, EndsWith x e := by
  cases x with
  | ok a => exact Or.inl ⟨a, rfl⟩
  | error e =>
      cases he : e.isDecode with
      | true => exact Or.inr (Or.inl ⟨e, rfl, he⟩)
      | false => exact Or.inr (Or.inr ⟨e, rfl, he⟩)

theorem orElse_eq_ok_iff : orElse x next = .ok a ↔ x = .ok a ∨ IsRefusal x ∧ next = .ok a := by
  constructor
  · intro h
    rcases value_or_refusal_or_end x with ⟨a', rfl⟩ | hx | ⟨e, hx⟩
    · exact Or.inl h
    · rw [orElse_of_isRefusal hx] at h
      exact Or.inr ⟨hx, h⟩
    · rw [orElse_of_endsWith hx] at h
      cases h
  · rintro (rfl | ⟨hx, h⟩)
    · rfl
    · rw [orElse_of_isRefusal hx, h]

theorem orElse_eq_error_iff :
    orElse x next = .error e ↔ EndsWith x e ∨ IsRefusal x ∧ next = .error e := by
  constructor
  · intro h
    rcases value_or_refusal_or_end x with ⟨a, rfl⟩ | hx | ⟨e', hx⟩
    · cases h
    · rw [orElse_of_isRefusal hx] at h
      exact Or.inr ⟨hx, h⟩
    · rw [orElse_of_endsWith hx] at h
      cases h
      exact Or.inl hx
  · rintro (hx | ⟨hx, h⟩)
    · exact orElse_of_endsWith hx
    · rw [orElse_of_isRefusal hx, h]

end OrElse

/-! ## Two and three alternatives -/

/-- The outcome of two alternatives from the outcomes of each, `last` if both refuse. -/
def tryTwo (x : Except Error α) (y : Except Error β) (last : Error) : Except Error (α ⊕ β) :=
  orElse (x.map .inl) (orElse (y.map .inr) (.error last))

/-- The outcome of three alternatives from the outcomes of each, `last` if all refuse. -/
def tryThree (x : Except Error α) (y : Except Error β) (z : Except Error γ) (last : Error) :
    Except Error (OneOfThree α β γ) :=
  orElse (x.map .first) (orElse (y.map .second) (orElse (z.map .third) (.error last)))

/-- The value as one of two alternatives, the second of which is two. -/
def OneOfThree.nested : OneOfThree α β γ → α ⊕ (β ⊕ γ)
  | .first value => .inl value
  | .second value => .inr (.inl value)
  | .third value => .inr (.inr value)

/-- The error with the name of two alternatives instead of that of three. -/
def Error.namingTwo : Error → Error
  | .mismatch .oneOfThree actual => .mismatch .oneOfTwo actual
  | e => e

theorem Error.namingTwo_of_not_isDecode {e : Error} (h : e.isDecode = false) : e.namingTwo = e := by
  cases e with
  | mismatch expected actual => cases h
  | _ => rfl

/-- The outcome of three alternatives as that of two inside two. -/
def nestedOutcome (outcome : Except Error (OneOfThree α β γ)) : Except Error (α ⊕ (β ⊕ γ)) :=
  (outcome.map OneOfThree.nested).mapError Error.namingTwo

theorem nestedOutcome_error {e : Error} :
    nestedOutcome (.error e : Except Error (OneOfThree α β γ)) = .error e.namingTwo := rfl

section Alternatives

variable {x : Except Error α} {y : Except Error β} {z : Except Error γ} {last : Error}

theorem tryTwo_of_isRefusal (h : IsRefusal x) :
    tryTwo x y last = orElse (y.map .inr) (.error last) :=
  orElse_of_isRefusal (isRefusal_map_iff.2 h)

theorem tryTwo_of_endsWith {e : Error} (h : EndsWith x e) : tryTwo x y last = .error e :=
  orElse_of_endsWith (endsWith_map_iff.2 h)

theorem tryThree_of_isRefusal (h : IsRefusal x) :
    tryThree x y z last = orElse (y.map .second) (orElse (z.map .third) (.error last)) :=
  orElse_of_isRefusal (isRefusal_map_iff.2 h)

theorem tryThree_of_endsWith {e : Error} (h : EndsWith x e) : tryThree x y z last = .error e :=
  orElse_of_endsWith (endsWith_map_iff.2 h)

theorem tryThree_eq_first_iff {a : α} : tryThree x y z last = .ok (.first a) ↔ x = .ok a := by
  simp [tryThree, orElse_eq_ok_iff, map_eq_ok_iff]

theorem tryThree_eq_second_iff {b : β} :
    tryThree x y z last = .ok (.second b) ↔ IsRefusal x ∧ y = .ok b := by
  simp [tryThree, orElse_eq_ok_iff, map_eq_ok_iff, isRefusal_map_iff]

theorem tryThree_eq_third_iff {c : γ} :
    tryThree x y z last = .ok (.third c) ↔ IsRefusal x ∧ IsRefusal y ∧ z = .ok c := by
  simp [tryThree, orElse_eq_ok_iff, map_eq_ok_iff, isRefusal_map_iff]

theorem tryThree_eq_error_iff {e : Error} :
    tryThree x y z last = .error e ↔ EndsWith x e ∨ IsRefusal x ∧ (EndsWith y e ∨
      IsRefusal y ∧ (EndsWith z e ∨ IsRefusal z ∧ last = e)) := by
  simp only [tryThree, orElse_eq_error_iff, endsWith_map_iff, isRefusal_map_iff, Except.error.injEq]

/-- Three alternatives are two, the second of which is two, if the last error of the inner ones lets
the outer ones go on. -/
theorem tryTwo_tryTwo {last' : Error}
    (hlast : IsRefusal x → IsRefusal y → IsRefusal z →
      last'.isDecode = true ∧ last.namingTwo = last') :
    tryTwo x (tryTwo y z last') last' = nestedOutcome (tryThree x y z last) := by
  rcases value_or_refusal_or_end x with ⟨a, rfl⟩ | hx | ⟨e, hx⟩
  · rfl
  · rw [tryTwo_of_isRefusal hx, tryThree_of_isRefusal hx]
    rcases value_or_refusal_or_end y with ⟨b, rfl⟩ | hy | ⟨e, hy⟩
    · rfl
    · rw [tryTwo_of_isRefusal hy, orElse_of_isRefusal (isRefusal_map_iff.2 hy)]
      rcases value_or_refusal_or_end z with ⟨c, rfl⟩ | hz | ⟨e, hz⟩
      · rfl
      · -- all refuse: the outer choice goes on after the last error of the inner one
        obtain ⟨hdecode, rfl⟩ := hlast hx hy hz
        rw [orElse_of_isRefusal (isRefusal_map_iff.2 hz),
          orElse_of_isRefusal (isRefusal_map_iff.2 hz), nestedOutcome_error]
        exact orElse_of_isRefusal ⟨_, rfl, hdecode⟩
      · rw [orElse_of_endsWith (endsWith_map_iff.2 hz), orElse_of_endsWith (endsWith_map_iff.2 hz),
          nestedOutcome_error, Error.namingTwo_of_not_isDecode hz.2]
        exact orElse_of_endsWith ⟨rfl, hz.2⟩
    · rw [tryTwo_of_endsWith hy, orElse_of_endsWith (endsWith_map_iff.2 hy), nestedOutcome_error,
        Error.namingTwo_of_not_isDecode hy.2]
      exact orElse_of_endsWith ⟨rfl, hy.2⟩
  · rw [tryTwo_of_endsWith hx, tryThree_of_endsWith hx, nestedOutcome_error,
      Error.namingTwo_of_not_isDecode hx.2]

end Alternatives

/-! ## Alternatives of shapes -/

namespace Shape

variable {s a b c : Shape} {revision : Revision} {r : Reply} {e : Error}

/-- The reply is refused as a result of the shape. -/
def Refuses (s : Shape) (revision : Revision) (r : Reply) : Prop :=
  IsRefusal (s.decode revision r)

/-- Reading the reply as a result of the shape fails with an error that no alternative follows. -/
def FailsWith (s : Shape) (revision : Revision) (r : Reply) (e : Error) : Prop :=
  EndsWith (s.decode revision r) e

/-- Raw shapes take error replies and the others report them, so no shape refuses one. -/
theorem Refuses.errorMessage? (h : s.Refuses revision r) :
    r.withoutAttributes.errorMessage? = none := by
  obtain ⟨e, hdecode, he⟩ := h
  cases hmessage : r.withoutAttributes.errorMessage? with
  | none => rfl
  | some message =>
      cases hraw : s.isRaw with
      | true =>
          obtain ⟨value, hvalue⟩ := accepts_of_raw s hraw _ message hmessage
          cases hdecode.symm.trans hvalue
      | false =>
          cases hdecode.symm.trans (reports_of_not_raw s hraw _ message hmessage)
          cases he

/-- An error that no alternative follows is what the server reported somewhere in the reply. -/
theorem FailsWith.exists_node (h : s.FailsWith revision r e) :
    ∃ node message, Inside node r ∧ node.errorMessage? = some message ∧
      e = .server (Utf8.lossyString message) := by
  obtain ⟨hdecode, he⟩ := h
  -- content errors are decode errors, so a node was refused, and one that is no error would be
  -- refused with a decode error as well
  have hform : ∀ fault, e ≠ .malformed fault := by
    rintro fault rfl
    cases he
  obtain ⟨expected, node, hnode, rfl⟩ := (caused_decode s revision r e hdecode).refused hform
  cases hmessage : node.errorMessage? with
  | none =>
      rw [Error.isDecode_of_unexpected hmessage] at he
      cases he
  | some message => exact ⟨node, message, hnode, hmessage, by rw [Error.unexpected, hmessage]⟩

theorem decode_oneOfTwo : (Shape.oneOfTwo a b).decode revision r =
    tryTwo (a.decode revision r) (b.decode revision r)
      (.unexpected .oneOfTwo r.withoutAttributes) := rfl

theorem decode_oneOfThree : (Shape.oneOfThree a b c).decode revision r =
    tryThree (a.decode revision r) (b.decode revision r) (c.decode revision r)
      (.unexpected .oneOfThree r.withoutAttributes) := rfl

theorem decode_oneOfTwo_nested : (Shape.oneOfTwo a (.oneOfTwo b c)).decode revision r =
    nestedOutcome ((Shape.oneOfThree a b c).decode revision r) := by
  rw [decode_oneOfTwo, decode_oneOfTwo, decode_oneOfThree]
  refine tryTwo_tryTwo fun ha _ _ => ?_
  have hreply : r.withoutAttributes.errorMessage? = none := Refuses.errorMessage? ha
  rw [Error.unexpected_eq_mismatch hreply, Error.unexpected_eq_mismatch hreply]
  exact ⟨rfl, rfl⟩

/-- Three alternatives are tried in order. One that takes the reply gives the result if all before
it refuse the reply. One that fails with another error than a decode error ends the search with this
error, which is a server error from somewhere in the reply. If all refuse, the kind of the reply
without its attributes is reported. Two alternatives, the second of which is two, have the same
outcome with the value in another place and the last error under another name. -/
theorem decode_oneOfThree_in_order (a b c : Shape) (revision : Revision) (r : Reply) :
    let outcome := (Shape.oneOfThree a b c).decode revision r
    (∀ x, outcome = .ok (.first x) ↔ a.decode revision r = .ok x) ∧
    (∀ x, outcome = .ok (.second x) ↔ a.Refuses revision r ∧ b.decode revision r = .ok x) ∧
    (∀ x, outcome = .ok (.third x) ↔
      a.Refuses revision r ∧ b.Refuses revision r ∧ c.decode revision r = .ok x) ∧
    (∀ e, outcome = .error e ↔
      a.FailsWith revision r e ∨ a.Refuses revision r ∧ (b.FailsWith revision r e ∨
        b.Refuses revision r ∧ (c.FailsWith revision r e ∨ c.Refuses revision r ∧
          .unexpected .oneOfThree r.withoutAttributes = e))) ∧
    (∀ (s : Shape) (e : Error), s.FailsWith revision r e → ∃ node message, Inside node r ∧
      node.errorMessage? = some message ∧ e = .server (Utf8.lossyString message)) ∧
    (a.Refuses revision r → Error.unexpected .oneOfThree r.withoutAttributes =
      .mismatch .oneOfThree r.withoutAttributes.kind) ∧
    (Shape.oneOfTwo a (.oneOfTwo b c)).decode revision r = nestedOutcome outcome := by
  intro outcome
  exact ⟨fun _ => tryThree_eq_first_iff, fun _ => tryThree_eq_second_iff,
    fun _ => tryThree_eq_third_iff, fun _ => tryThree_eq_error_iff,
    fun _ _ h => h.exists_node, fun h => Error.unexpected_eq_mismatch h.errorMessage?,
    decode_oneOfTwo_nested⟩

/-- The first alternative is itself two, and both refuse the reply. The second meets an error reply
inside of it, so the third is not tried, although it takes every reply. -/
theorem decode_oneOfThree_in_order_nested :
    let attributes : List (Reply × Reply) := [(.bulk [107], .null)]
    let r : Reply := .attribute attributes (.array [.bulk [97], .error [69]])
    let a : Shape := .oneOfTwo (.integer .int64) (.list (.integer .int64))
    let b : Shape := .list .string
    a.Refuses .third r ∧ b.FailsWith .third r (.server "E") ∧
      (∃ value, Shape.reply.decode .third r = .ok value) ∧
      (Shape.oneOfThree a b .reply).decode .third r = .error (.server "E") ∧
      (Shape.oneOfTwo a (.oneOfTwo b .reply)).decode .third r = .error (.server "E") ∧
      ∃ node message, Inside node r ∧ node.errorMessage? = some message ∧
        Error.server "E" = .server (Utf8.lossyString message) := by
  intro attributes r a b
  have ha : a.Refuses .third r := ⟨.mismatch .oneOfTwo .array, rfl, rfl⟩
  have hb : b.FailsWith .third r (.server "E") := by
    have htext : Utf8.lossyString [69] = "E" := by decide
    rw [← htext]
    exact ⟨rfl, rfl⟩
  obtain ⟨-, -, -, herror, hserver, -, hnested⟩ := decode_oneOfThree_in_order a b .reply .third r
  have hthree := (herror (.server "E")).2 (Or.inr ⟨ha, Or.inl hb⟩)
  rw [hthree] at hnested
  exact ⟨ha, hb, ⟨_, rfl⟩, hthree, hnested, hserver b _ hb⟩

/-- A truth value with attributes is refused as a truth value, not as a reply with attributes. -/
theorem decode_oneOfThree_annotated :
    let attributes : List (Reply × Reply) := [(.bulk [107], .null)]
    let r : Reply := .attribute attributes (.boolean true)
    let outcome := (Shape.oneOfThree (.integer .int64) .string (.list .string)).decode .third r
    outcome = .error (.mismatch .oneOfThree .boolean) ∧
      Error.unexpected .oneOfThree r = .mismatch .oneOfThree .attribute ∧
      ¬ ∀ (a b c : Shape) (revision : Revision) (r : Reply), a.Refuses revision r →
        b.Refuses revision r → c.Refuses revision r →
          (Shape.oneOfThree a b c).decode revision r = .error (.unexpected .oneOfThree r) := by
  intro attributes r outcome
  refine ⟨rfl, rfl, fun h => ?_⟩
  have hexpected := h (.integer .int64) .string (.list .string) .third r ⟨_, rfl, rfl⟩ ⟨_, rfl, rfl⟩
    ⟨_, rfl, rfl⟩
  cases hexpected

end Shape

end RespClient
