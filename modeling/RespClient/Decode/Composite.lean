import RespClient.Decode.Decoder

/-!
# Decoders made of decoders

Optional values, pairs, tuples and alternatives are read by putting together the
decoders of their parts.
-/

namespace RespClient

/-- The reply inside arrays of one item. -/
def Reply.innermost : Reply → Reply
  | .array [item] => item.innermost
  | reply => reply

/-- Runs one reader per position, from the first to the last. -/
def readEach : {n : Nat} → {α : Fin n → Type} → ((i : Fin n) → Except Error (α i)) →
    Except Error ((i : Fin n) → α i)
  | 0, _, _ => .ok fun i => i.elim0
  | _ + 1, _, read => do
    let first ← read 0
    let rest ← readEach fun i => read i.succ
    .ok (Fin.cases first rest)

/-- A value of the first type that fits, out of three. -/
inductive OneOfThree (α β γ : Type) where
  | first (value : α)
  | second (value : β)
  | third (value : γ)
  deriving Repr, DecidableEq

/-- Goes on with `next` after a decode error. Any other outcome is final. -/
def orElse {α : Type} (outcome : Except Error α) (next : Except Error α) : Except Error α :=
  match outcome with
  | .ok value => .ok value
  | .error e => if e.isDecode then next else .error e

namespace Decoder

variable {α β γ : Type}

/-- A value that may be missing; null stands for a missing one. -/
def optional (d : Decoder α) : Decoder (Option α) := ofReply fun reply =>
  match reply with
  | .null => .ok none
  | reply => (d.reply reply).map some

/-- Two values from two replies. -/
def both (a : Decoder α) (b : Decoder β) (parts : Reply × Reply) : Except Error (α × β) := do
  let first ← a.reply parts.1
  let second ← b.reply parts.2
  .ok (first, second)

/-- Two values from an array of two, which may stand inside arrays of one item. -/
def pair (a : Decoder α) (b : Decoder β) : Decoder (α × β) :=
  ofPair (both a b) fun reply => do both a b (← twoItems .pair reply.innermost)

/-- One value per item of an array of fixed length. -/
def tuple {n : Nat} {α : Fin n → Type} (fields : (i : Fin n) → Decoder (α i)) :
    Decoder ((i : Fin n) → α i) := ofReply fun reply =>
  match reply with
  | .array items =>
    if h : items.length = n then
      readEach fun i => (fields i).reply (items.get (i.cast h.symm))
    else .error (.malformed (.elementCount .tuple n items.length))
  | reply => .error (.unexpected .array reply)

/-- A value of the first of two types that fits. -/
def oneOfTwo (a : Decoder α) (b : Decoder β) : Decoder (α ⊕ β) := ofReply fun reply =>
  orElse ((a.reply reply).map .inl) <|
    orElse ((b.reply reply).map .inr) <|
      .error (.unexpected .oneOfTwo reply)

/-- A value of the first of three types that fits. -/
def oneOfThree (a : Decoder α) (b : Decoder β) (c : Decoder γ) : Decoder (OneOfThree α β γ) :=
  ofReply fun reply =>
    orElse ((a.reply reply).map .first) <|
      orElse ((b.reply reply).map .second) <|
        orElse ((c.reply reply).map .third) <|
          .error (.unexpected .oneOfThree reply)

end Decoder

end RespClient
