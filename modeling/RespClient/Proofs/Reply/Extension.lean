import RespClient.Proofs.Reply.Frame

/-!
# Reading with more octets

More octets behind those that a reader has change what it gives only when it waits for them: a reply
stays the same reply and a fault other than `incomplete` the same fault (`parse_append_of_ok`,
`parse_append_of_error`). A step that succeeds takes octets: a line its line ending at least, and a
reply its marker and a line, so three octets or more (`parse_takes`).
-/

set_option autoImplicit false

namespace RespClient

/-! ## Steps on more octets -/

/-- What a step with `before` octets has to do with the same step on more octets. It waits, or both
give the same fault, or both succeed; in that case it takes `least` octets or more, and the long
step leaves the octets that the short one leaves and those behind them. -/
inductive Steady {α : Type} (left : α → Nat) (extend : α → α) (least before : Nat) :
    Except ParseFault α → Except ParseFault α → Prop
  | wait {long : Except ParseFault α} : Steady left extend least before (.error .incomplete) long
  | fault {fault : ParseFault} : Steady left extend least before (.error fault) (.error fault)
  | ok {a : α} (h : left a + least ≤ before) :
    Steady left extend least before (.ok a) (.ok (extend a))

namespace Steady

variable {α β : Type} {left : α → Nat} {extend : α → α} {left' : β → Nat} {extend' : β → β}
  {least before : Nat} {short long short' long' : Except ParseFault α}

theorem weaken {least' before' : Nat} (h : Steady left extend least' before' short long)
    (hle : before' + least ≤ before + least') : Steady left extend least before short long := by
  cases h with
  | wait => exact wait
  | fault => exact fault
  | ok hleft => exact ok (by omega)

/-- A step, and then one that gives no octet back. -/
theorem bind {next next' : α → Except ParseFault β} (h : Steady left extend least before short long)
    (hnext : ∀ a, Steady left' extend' 0 (left a) (next a) (next' (extend a))) :
    Steady left' extend' least before (short >>= next) (long >>= next') := by
  cases h with
  | wait => exact wait
  | fault => exact fault
  | @ok a hleft => exact (hnext a).weaken hleft

/-- A test on something that more octets do not change. -/
theorem ite {p : Prop} [Decidable p] (h : Steady left extend least before short long)
    (h' : Steady left extend least before short' long') :
    Steady left extend least before (if p then short else short') (if p then long else long') := by
  split
  · exact h
  · exact h'

end Steady

/-- The number of octets left after a step on octets. -/
def bytesLeft {α : Type} (result : α × Bytes) : Nat := result.2.length

/-- The result of a step on octets with more octets left. -/
def extendBytes {α : Type} (more : Bytes) (result : α × Bytes) : α × Bytes :=
  (result.1, result.2 ++ more)

/-- The cursor with more octets left. -/
def Cursor.extend (more : Bytes) (cursor : Cursor) : Cursor :=
  { cursor with rest := cursor.rest ++ more }

/-- The number of octets left after a reader. -/
def cursorLeft {α : Type} (result : α × Cursor) : Nat := result.2.rest.length

/-- The result of a reader with more octets left. -/
def extendCursor {α : Type} (more : Bytes) (result : α × Cursor) : α × Cursor :=
  (result.1, result.2.extend more)

section

variable (limits : Limits) (more : Bytes)

/-! ### Lines, numbers and texts -/

theorem steady_takeLine (octets : Bytes) :
    Steady bytesLeft (extendBytes more) 2 octets.length (takeLine octets)
      (takeLine (octets ++ more)) := by
  induction octets with
  | nil => exact .wait
  | cons b octets ih =>
      by_cases hb : b = 13
      · subst hb
        cases octets with
        | nil => exact .wait
        | cons c after =>
            show Steady _ _ _ _ (if c = 10 then _ else _) (if c = 10 then _ else _)
            exact .ite (.ok (Nat.le_refl _)) .fault
      · rw [List.cons_append, takeLine_cons_of_ne hb, takeLine_cons_of_ne hb]
        -- one octet more on both sides, and one more in the line
        generalize takeLine octets = short, takeLine (octets ++ more) = long at ih
        cases ih with
        | wait => exact .wait
        | fault => exact .fault
        | ok hleft => exact .ok (Nat.le_succ_of_le hleft)

theorem steady_takeInteger (octets : Bytes) :
    Steady bytesLeft (extendBytes more) 2 octets.length (takeInteger octets)
      (takeInteger (octets ++ more)) := by
  refine (steady_takeLine more octets).bind fun parts => ?_
  obtain ⟨body, after⟩ := parts
  simp only [extendBytes]
  cases Utf8.decode body with
  | error fault => exact .fault
  | ok text =>
      simp only
      cases Decimal.read .int64 text with
      | error fault => exact .fault
      | ok n => exact .ok (Nat.le_refl _)

theorem steady_takeDouble (octets : Bytes) :
    Steady bytesLeft (extendBytes more) 2 octets.length (takeDouble octets)
      (takeDouble (octets ++ more)) := by
  refine (steady_takeLine more octets).bind fun parts => ?_
  obtain ⟨body, after⟩ := parts
  simp only [extendBytes]
  cases Utf8.decode body with
  | error fault => exact .fault
  | ok text =>
      simp only
      cases Literal.read? .double text with
      | none => exact .fault
      | some x => exact .ok (Nat.le_refl _)

theorem steady_takeBlob (octets : Bytes) :
    Steady bytesLeft (extendBytes more) 2 octets.length (takeBlob limits octets)
      (takeBlob limits (octets ++ more)) := by
  refine (steady_takeInteger more octets).bind fun header => ?_
  obtain ⟨n, after⟩ := header
  refine .ite (.ok (Nat.le_refl _)) (.ite .fault ?_)
  generalize n.val.toNat = length
  -- two octets behind the text decide, and the text is there when they are
  match hdrop : after.drop length with
  | [] => exact .wait
  | [_] => exact .wait
  | b :: c :: rest =>
      have hrest : rest.length + 2 = after.length - length := by
        rw [← List.length_drop, hdrop]
        rfl
      have hle : length ≤ after.length := by omega
      have hlong : (after ++ more).drop length = b :: c :: (rest ++ more) := by
        rw [List.drop_append_of_le_length hle, hdrop]
        rfl
      have htake : (after ++ more).take length = after.take length :=
        List.take_append_of_le_length hle
      simp only [hlong, htake]
      refine .ite (.ok ?_) .fault
      show rest.length + 0 ≤ after.length
      omega

theorem steady_takeCount (depth weight : Nat) (cursor : Cursor) :
    Steady cursorLeft (extendCursor more) 2 cursor.rest.length
      (takeCount limits depth weight cursor)
      (takeCount limits depth weight (cursor.extend more)) := by
  refine (steady_takeInteger more cursor.rest).bind fun header => ?_
  show Steady _ _ _ _ (book limits depth weight cursor.announced header.1 >>= _)
    (book limits depth weight cursor.announced header.1 >>= _)
  cases book limits depth weight cursor.announced header.1 with
  | error fault => exact .fault
  | ok booking => exact .ok (Nat.le_refl _)

end

/-! ### Replies -/

/-- The long reader does on cursors with more octets what the short one does, which takes `least`
octets or more. -/
def ReaderSteady {α : Type} (more : Bytes) (least : Nat)
    (short long : Cursor → Except ParseFault (α × Cursor)) : Prop :=
  ∀ cursor, Steady cursorLeft (extendCursor more) least cursor.rest.length (short cursor)
    (long (cursor.extend more))

section

variable {α : Type} {limits : Limits} {more : Bytes} {depth : Nat}

theorem ReaderSteady.repeatReader {short long : Cursor → Except ParseFault (α × Cursor)}
    (h : ReaderSteady more 0 short long) (count : Nat) :
    ReaderSteady more 0 (repeatReader short count) (repeatReader long count) := by
  induction count with
  | zero => exact fun _ => .ok (Nat.le_refl _)
  | succ count ih =>
      refine fun cursor => (h cursor).bind fun item => ?_
      exact (ih item.2).bind fun _ => .ok (Nat.le_refl _)

theorem ReaderSteady.readTwice {short long : Cursor → Except ParseFault (α × Cursor)}
    (h : ReaderSteady more 0 short long) :
    ReaderSteady more 0 (readTwice short) (readTwice long) := by
  refine fun cursor => (h cursor).bind fun key => ?_
  exact (h key.2).bind fun _ => .ok (Nat.le_refl _)

/-- A body is read alike on more octets when the replies inside it are, and takes a line at
least. -/
theorem steady_takeBody {short long : Cursor → Except ParseFault (Reply × Cursor)}
    (h : ReaderSteady more 0 short long) (k : Kind) :
    ReaderSteady more 2 (fun cursor => takeBody limits short depth cursor k)
      (fun cursor => takeBody limits long depth cursor k) := by
  intro cursor
  cases k with
  | status => exact (steady_takeLine more cursor.rest).bind fun _ => .ok (Nat.le_refl _)
  | error => exact (steady_takeLine more cursor.rest).bind fun _ => .ok (Nat.le_refl _)
  | integer => exact (steady_takeInteger more cursor.rest).bind fun _ => .ok (Nat.le_refl _)
  | string =>
      refine (steady_takeBlob limits more cursor.rest).bind fun blob => ?_
      obtain ⟨text, after⟩ := blob
      cases text with
      | none => exact .ok (Nat.le_refl _)
      | some text => exact .ok (Nat.le_refl _)
  | nil =>
      refine (steady_takeLine more cursor.rest).bind fun _ => ?_
      exact .ite (.ok (Nat.le_refl _)) .fault
  | array =>
      refine (steady_takeInteger more cursor.rest).bind fun header => ?_
      refine .ite (.ok (Nat.le_refl _)) ?_
      show Steady _ _ _ _ (book limits depth 1 cursor.announced header.1 >>= _)
        (book limits depth 1 cursor.announced header.1 >>= _)
      cases book limits depth 1 cursor.announced header.1 with
      | error fault => exact .fault
      -- what is booked depends on the count alone
      | ok booking =>
          exact (h.repeatReader booking.1 ⟨header.2, booking.2⟩).bind fun _ =>
            .ok (Nat.le_refl _)
  | boolean =>
      refine (steady_takeLine more cursor.rest).bind fun _ => ?_
      exact .ite (.ok (Nat.le_refl _)) (.ite (.ok (Nat.le_refl _)) .fault)
  | double => exact (steady_takeDouble more cursor.rest).bind fun _ => .ok (Nat.le_refl _)
  | bigNumber => exact (steady_takeLine more cursor.rest).bind fun _ => .ok (Nat.le_refl _)
  | bulkError =>
      refine (steady_takeBlob limits more cursor.rest).bind fun blob => ?_
      obtain ⟨text, after⟩ := blob
      cases text with
      | none => exact .fault
      | some message => exact .ok (Nat.le_refl _)
  | verbatim =>
      refine (steady_takeBlob limits more cursor.rest).bind fun blob => ?_
      obtain ⟨text, after⟩ := blob
      simp only [extendBytes]
      cases text.bind verbatimParts? with
      | none => exact .fault
      | some parts => exact .ok (Nat.le_refl _)
  | map =>
      refine (steady_takeCount limits more depth 2 cursor).bind fun header => ?_
      exact (h.readTwice.repeatReader header.1 header.2).bind fun _ => .ok (Nat.le_refl _)
  | set =>
      refine (steady_takeCount limits more depth 1 cursor).bind fun header => ?_
      exact (h.repeatReader header.1 header.2).bind fun _ => .ok (Nat.le_refl _)
  | push =>
      refine (steady_takeCount limits more depth 1 cursor).bind fun header => ?_
      exact (h.repeatReader header.1 header.2).bind fun _ => .ok (Nat.le_refl _)
  | «attribute» =>
      refine (steady_takeCount limits more depth 2 cursor).bind fun header => ?_
      refine (h.readTwice.repeatReader header.1 header.2).bind fun attributes => ?_
      exact (h attributes.2).bind fun _ => .ok (Nat.le_refl _)

/-- A reader without fuel waits, so more fuel for more octets never shows. -/
theorem steady_takeReply (fuel spare : Nat) :
    ∀ depth, ReaderSteady more 3 (takeReply limits fuel depth)
      (takeReply limits (fuel + spare) depth) := by
  induction fuel with
  | zero => exact fun _ _ => .wait
  | succ fuel ih =>
      intro depth cursor
      rw [Nat.add_right_comm]
      obtain ⟨octets, announced⟩ := cursor
      cases octets with
      | nil => exact .wait
      | cons octet rest =>
          simp only [takeReply, Cursor.extend, List.cons_append]
          cases Kind.ofMarker? octet with
          | none => exact .fault
          | some k =>
              have hinner : ReaderSteady more 0 (takeReply limits fuel (depth + 1))
                  (takeReply limits (fuel + spare) (depth + 1)) :=
                fun cursor => (ih (depth + 1) cursor).weaken (by omega)
              exact (steady_takeBody hinner k ⟨rest, announced⟩).weaken (Nat.le_refl _)

end

namespace Reply

variable {limits : Limits} {octets : Bytes}

theorem steady_read (limits : Limits) (octets more : Bytes) :
    Steady cursorLeft (extendCursor more) 3 octets.length
      (takeReply limits octets.length 0 ⟨octets, 0⟩)
      (takeReply limits (octets ++ more).length 0 ⟨octets ++ more, 0⟩) := by
  rw [List.length_append]
  exact steady_takeReply octets.length more.length 0 ⟨octets, 0⟩

/-- A reply stays the reply that it is. -/
theorem parse_append_of_ok {result : Reply × Nat} (h : parse limits octets = .ok result)
    (more : Bytes) : parse limits (octets ++ more) = .ok result := by
  obtain ⟨read, hread, hresult⟩ := bind_eq_ok_iff.1 h
  have hsteady := steady_read limits octets more
  rw [hread] at hsteady
  generalize hlong : takeReply limits (octets ++ more).length 0 ⟨octets ++ more, 0⟩ = long
    at hsteady
  cases hsteady with
  | ok hleft =>
      rw [parse, hlong, ← hresult]
      show Except.ok (read.1, (octets ++ more).length - (read.2.rest ++ more).length) =
        Except.ok (read.1, octets.length - read.2.rest.length)
      rw [List.length_append, List.length_append, Nat.add_sub_add_right]

/-- A fault that does not wait stays the fault that it is. -/
theorem parse_append_of_error {fault : ParseFault} (h : parse limits octets = .error fault)
    (hfault : fault ≠ .incomplete) (more : Bytes) :
    parse limits (octets ++ more) = .error fault := by
  have hsteady := steady_read limits octets more
  generalize hshort : takeReply limits octets.length 0 ⟨octets, 0⟩ = short at hsteady
  generalize hlong : takeReply limits (octets ++ more).length 0 ⟨octets ++ more, 0⟩ = long
    at hsteady
  rw [parse, hshort] at h
  -- the wait is the one way in which more octets change the outcome
  cases hsteady with
  | wait =>
      cases h
      exact absurd rfl hfault
  | fault =>
      rw [parse, hlong]
      exact h
  | ok hleft => cases h

/-- A reply takes three octets or more, and no more than there are. -/
theorem parse_takes {reply : Reply} {taken : Nat} (h : parse limits octets = .ok (reply, taken)) :
    3 ≤ taken ∧ taken ≤ octets.length := by
  obtain ⟨read, hread, hresult⟩ := bind_eq_ok_iff.1 h
  have hsteady := steady_read limits octets []
  rw [hread] at hsteady
  generalize takeReply limits (octets ++ []).length 0 ⟨octets ++ [], 0⟩ = long at hsteady
  cases hsteady with
  | ok hleft =>
      have hrest : read.2.rest.length + 3 ≤ octets.length := hleft
      cases hresult
      omega

end Reply

end RespClient
