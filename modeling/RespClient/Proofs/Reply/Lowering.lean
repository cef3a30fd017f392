import RespClient.Proofs.Reply.Acceptance

/-!
# Lower limits

Limits only refuse: under lower limits the reader gives what it gives under higher ones, or a fault
that names a limit (`Reply.limits_only_refuse`). Two readers that differ in their limits go through
the same octets side by side, with the same items booked, until the one with the lower limits
refuses. Each check against a limit compares the same number on both sides, so what the higher
limits refuse the lower ones refuse as well, and checks on anything else have one outcome.
-/

set_option autoImplicit false

namespace RespClient

/-- None of the limits is above its counterpart. -/
structure Limits.AtMost (low high : Limits) : Prop where
  collection_le : low.maxCollection ≤ high.maxCollection
  bulk_le : low.maxBulk ≤ high.maxBulk
  depth_le : low.maxDepth ≤ high.maxDepth
  total_le : low.maxTotal ≤ high.maxTotal

/-! ## Steps under lower limits -/

/-- What a step under lower limits has to do with the same step under higher ones: both give the
same, or the one under lower limits gives a fault that names a limit. -/
inductive Lowered {α : Type} : Except ParseFault α → Except ParseFault α → Prop
  | same (step : Except ParseFault α) : Lowered step step
  | refused {fault : ParseFault} {high : Except ParseFault α} (h : fault.isLimit = true) :
    Lowered (.error fault) high

namespace Lowered

variable {α β : Type} {low high low' high' : Except ParseFault α}

/-- After a step that both take alike, the next one starts from the same place. -/
theorem bind {next next' : α → Except ParseFault β} (h : Lowered low high)
    (hnext : ∀ a, Lowered (next a) (next' a)) : Lowered (low >>= next) (high >>= next') := by
  cases h with
  | same =>
      cases low with
      | error fault => exact same (.error fault)
      | ok a => exact hnext a
  | refused hlimit => exact refused hlimit

/-- A test on something that does not depend on limits. -/
theorem ite {p : Prop} [Decidable p] (h : Lowered low high) (h' : Lowered low' high') :
    Lowered (if p then low else low') (if p then high else high') := by
  split
  · exact h
  · exact h'

/-- A check against a limit that refuses more the lower the limit is. -/
theorem check {p p' : Prop} [Decidable p] [Decidable p'] {fault : ParseFault} (hp : p' → p)
    (hlimit : fault.isLimit = true) (h : Lowered low high) :
    Lowered (if p then .error fault else low) (if p' then high' else high) := by
  by_cases hlow : p
  · rw [if_pos hlow]
    exact refused hlimit
  · rw [if_neg hlow, if_neg (mt hp hlow)]
    exact h

end Lowered

/-! ## Checks -/

section

variable {low high : Limits}

theorem lowered_book (h : low.AtMost high) (depth weight announced : Nat) (n : Int64Value) :
    Lowered (book low depth weight announced n) (book high depth weight announced n) := by
  obtain ⟨hcollection, -, hdepth, htotal⟩ := h
  rw [UInt64.le_iff_toNat_le] at hcollection hdepth htotal
  -- three limits and, between them, two tests that do not depend on limits
  refine .check (fun hdeep => Nat.le_trans hdepth hdeep) rfl (.ite (.same _) ?_)
  refine .check (fun hlarge => Nat.lt_of_le_of_lt hcollection hlarge) rfl (.ite (.same _) ?_)
  exact .check (fun hlarge => Nat.lt_of_le_of_lt htotal hlarge) rfl (.same _)

theorem lowered_takeBlob (h : low.AtMost high) (octets : Bytes) :
    Lowered (takeBlob low octets) (takeBlob high octets) := by
  refine (Lowered.same (takeInteger octets)).bind fun header => .ite (.same _) ?_
  exact .check (fun hlong => Nat.lt_of_le_of_lt (UInt64.le_iff_toNat_le.1 h.bulk_le) hlong) rfl
    (.same _)

theorem lowered_takeCount (h : low.AtMost high) (depth weight : Nat) (cursor : Cursor) :
    Lowered (takeCount low depth weight cursor) (takeCount high depth weight cursor) :=
  (Lowered.same (takeInteger cursor.rest)).bind fun header =>
    (lowered_book h depth weight cursor.announced header.1).bind fun _ => .same _

end

/-! ## Replies -/

/-- The reader under lower limits and the one under higher limits, on the same cursors. -/
def ReaderLowered {α : Type} (low high : Cursor → Except ParseFault (α × Cursor)) : Prop :=
  ∀ cursor, Lowered (low cursor) (high cursor)

section

variable {α : Type} {reader reader' : Cursor → Except ParseFault (α × Cursor)}

theorem ReaderLowered.repeatReader (h : ReaderLowered reader reader') (count : Nat) :
    ReaderLowered (repeatReader reader count) (repeatReader reader' count) := by
  induction count with
  | zero => exact fun _ => .same _
  | succ count ih =>
      refine fun cursor => (h cursor).bind fun item => ?_
      exact (ih item.2).bind fun _ => .same _

theorem ReaderLowered.readTwice (h : ReaderLowered reader reader') :
    ReaderLowered (readTwice reader) (readTwice reader') := by
  refine fun cursor => (h cursor).bind fun key => ?_
  exact (h key.2).bind fun _ => .same _

end

section

variable {low high : Limits} {inner inner' : Cursor → Except ParseFault (Reply × Cursor)}

/-- A body is refused by a limit or read alike when the replies inside it are. -/
theorem lowered_takeBody (h : low.AtMost high) (hinner : ReaderLowered inner inner') (depth : Nat)
    (k : Kind) :
    ReaderLowered (fun cursor => takeBody low inner depth cursor k)
      (fun cursor => takeBody high inner' depth cursor k) := by
  intro cursor
  cases k with
  | string => exact (lowered_takeBlob h cursor.rest).bind fun _ => .same _
  | bulkError => exact (lowered_takeBlob h cursor.rest).bind fun _ => .same _
  | verbatim => exact (lowered_takeBlob h cursor.rest).bind fun _ => .same _
  | array =>
      refine (Lowered.same (takeInteger cursor.rest)).bind fun header => .ite (.same _) ?_
      refine (lowered_book h depth 1 cursor.announced header.1).bind fun booking => ?_
      exact (hinner.repeatReader booking.1 ⟨header.2, booking.2⟩).bind fun _ => .same _
  | map =>
      refine (lowered_takeCount h depth 2 cursor).bind fun header => ?_
      exact (hinner.readTwice.repeatReader header.1 header.2).bind fun _ => .same _
  | set =>
      refine (lowered_takeCount h depth 1 cursor).bind fun header => ?_
      exact (hinner.repeatReader header.1 header.2).bind fun _ => .same _
  | push =>
      refine (lowered_takeCount h depth 1 cursor).bind fun header => ?_
      exact (hinner.repeatReader header.1 header.2).bind fun _ => .same _
  | «attribute» =>
      refine (lowered_takeCount h depth 2 cursor).bind fun header => ?_
      refine (hinner.readTwice.repeatReader header.1 header.2).bind fun attributes => ?_
      exact (hinner attributes.2).bind fun _ => .same _
  -- lines know no limits
  | _ => exact .same _

theorem lowered_takeReply (h : low.AtMost high) (fuel : Nat) :
    ∀ depth, ReaderLowered (takeReply low fuel depth) (takeReply high fuel depth) := by
  induction fuel with
  | zero => exact fun _ _ => .same _
  | succ fuel ih =>
      intro depth cursor
      obtain ⟨octets, announced⟩ := cursor
      cases octets with
      | nil => exact .same _
      | cons octet rest =>
          simp only [takeReply]
          cases Kind.ofMarker? octet with
          | none => exact .same _
          | some k => exact lowered_takeBody h (ih (depth + 1)) depth k ⟨rest, announced⟩

end

namespace Reply

theorem lowered_parse {low high : Limits} (h : low.AtMost high) (octets : Bytes) :
    Lowered (parse low octets) (parse high octets) :=
  (lowered_takeReply h octets.length 0 ⟨octets, 0⟩).bind fun _ => .same _

/-- Limits only refuse. Under lower limits a reader gives the same reply with the same number of
octets, or the same fault, a wait included, or else a fault that names a limit. So what is accepted
under lower limits is accepted under higher ones, and lower limits add no fault of another kind. -/
theorem limits_only_refuse {low high : Limits} (h : low.AtMost high) (octets : Bytes) :
    (parse low octets = parse high octets ∨
      ∃ fault, fault.isLimit = true ∧ parse low octets = .error fault) ∧
    (∀ result, parse low octets = .ok result → parse high octets = .ok result) ∧
    ∀ fault, parse low octets = .error fault → fault.isLimit = false →
      parse high octets = .error fault := by
  have hlowered := lowered_parse h octets
  generalize parse low octets = step, parse high octets = step' at hlowered
  cases hlowered with
  | same => exact ⟨Or.inl rfl, fun _ => id, fun _ heq _ => heq⟩
  | refused hlimit =>
      refine ⟨Or.inr ⟨_, hlimit, rfl⟩, nofun, fun fault heq hother => ?_⟩
      cases heq
      rw [hlimit] at hother
      cases hother

/-- Two arrays inside one another have three items in all: a total of two refuses the inner one
before its items are read, although one of them is malformed. With a total of three the malformed
item is the fault, as under the default limits. -/
theorem limits_only_refuse_total :
    let two : Limits := { maxTotal := 2 }
    let three : Limits := { maxTotal := 3 }
    let octets : Bytes := [42, 49, 13, 10, 42, 50, 13, 10, 58, 49, 13, 10, 35, 120, 13, 10]
    two.AtMost {} ∧ three.AtMost {} ∧
      parse two octets = .error (.collectionTooLarge 3) ∧
      parse two octets ≠ parse {} octets ∧
      parse three octets = .error .badBoolean ∧ parse {} octets = .error .badBoolean := by
  intro two three octets
  have htwo : two.AtMost {} := ⟨by decide, by decide, by decide, by decide⟩
  have hthree : three.AtMost {} := ⟨by decide, by decide, by decide, by decide⟩
  have hrefused : parse two octets = .error (.collectionTooLarge 3) := rfl
  have hmalformed : parse three octets = .error .badBoolean := rfl
  obtain ⟨-, -, hfault⟩ := limits_only_refuse hthree octets
  have hdefault := hfault _ hmalformed rfl
  refine ⟨htwo, hthree, hrefused, fun heq => ?_, hmalformed, hdefault⟩
  rw [hrefused, hdefault] at heq
  cases heq

end Reply

end RespClient
