import RespClient.Proofs.Reply.Extension
import RespClient.Reply.Stream

/-!
# Chunks of a stream

How a stream is cut into chunks changes nothing that a stream reader gives in the end: neither the
replies of all rounds together, nor the octets left, nor the fault that ended reading for good
(`StreamReader.chunks_flatten`). One round is described by `Drains`, a relation with one case for
each way a round goes on or ends. Octets that arrive later continue a round that waited
(`Drains.append`) and are kept after a round that failed (`Drains.append_of_failed`).
-/

set_option autoImplicit false

namespace RespClient

variable {limits : Limits}

/-! ## One round -/

/-- A round on some octets: the replies read off their front one after the other, the fault that
ended the round, if one did, and the octets left. -/
inductive Drains (limits : Limits) : Bytes → List Reply → Option ParseFault → Bytes → Prop
  | empty : Drains limits [] [] none []
  | stuck {octets : Bytes} {fault : ParseFault} (hne : octets ≠ [])
    (hparse : Reply.parse limits octets = .error fault) :
    Drains limits octets [] (some fault) octets
  | reply {octets left : Bytes} {reply : Reply} {taken : Nat} {replies : List Reply}
    {stop : Option ParseFault} (hne : octets ≠ [])
    (hparse : Reply.parse limits octets = .ok (reply, taken))
    (hrest : Drains limits (octets.drop taken) replies stop left) :
    Drains limits octets (reply :: replies) stop left

/-- A round never stops for want of fuel. -/
theorem drains_readAll (limits : Limits) :
    ∀ (fuel : Nat) (octets : Bytes), octets.length ≤ fuel →
      Drains limits octets (readAll limits fuel octets).1 (readAll limits fuel octets).2.1
        (readAll limits fuel octets).2.2 := by
  intro fuel
  induction fuel with
  | zero =>
      intro octets hfuel
      obtain rfl : octets = [] := List.eq_nil_of_length_eq_zero (Nat.le_zero.1 hfuel)
      exact .empty
  | succ fuel ih =>
      intro octets hfuel
      cases octets with
      | nil => exact .empty
      | cons b octets =>
          have hne : b :: octets ≠ [] := List.cons_ne_nil b octets
          rw [readAll, if_neg (by simp)]
          cases hparse : Reply.parse limits (b :: octets) with
          | error fault => exact .stuck hne hparse
          | ok result =>
              obtain ⟨reply, taken⟩ := result
              -- a reply takes octets, so the fuel lasts for those left
              have htakes := Reply.parse_takes hparse
              refine .reply hne hparse (ih _ ?_)
              rw [List.length_drop]
              omega

theorem exists_drains (limits : Limits) (octets : Bytes) :
    ∃ replies stop left, Drains limits octets replies stop left :=
  ⟨_, _, _, drains_readAll limits _ octets (Nat.le_refl _)⟩

namespace Drains

variable {octets left left' more : Bytes} {replies replies' : List Reply}
  {stop stop' : Option ParseFault} {fault : ParseFault}

/-- A round has one outcome. -/
theorem unique (h : Drains limits octets replies stop left)
    (h' : Drains limits octets replies' stop' left') :
    replies = replies' ∧ stop = stop' ∧ left = left' := by
  induction h generalizing replies' with
  | empty =>
      cases h' with
      | empty => exact ⟨rfl, rfl, rfl⟩
      | stuck hne hparse => exact absurd rfl hne
      | reply hne hparse hrest => exact absurd rfl hne
  | stuck hne hparse =>
      cases h' with
      | empty => exact absurd rfl hne
      | stuck hne' hparse' =>
          cases hparse.symm.trans hparse'
          exact ⟨rfl, rfl, rfl⟩
      | reply hne' hparse' hrest' => cases hparse.symm.trans hparse'
  | reply hne hparse hrest ih =>
      cases h' with
      | empty => exact absurd rfl hne
      | stuck hne' hparse' => cases hparse.symm.trans hparse'
      | reply hne' hparse' hrest' =>
          cases hparse.symm.trans hparse'
          obtain ⟨rfl, rfl, rfl⟩ := ih hrest'
          exact ⟨rfl, rfl, rfl⟩

/-- The first reply of a round is there on more octets, too. -/
theorem reply_append {reply : Reply} {taken : Nat} (hne : octets ≠ [])
    (hparse : Reply.parse limits octets = .ok (reply, taken))
    (hrest : Drains limits (octets.drop taken ++ more) replies stop left) :
    Drains limits (octets ++ more) (reply :: replies) stop left := by
  have hlong : octets ++ more ≠ [] := List.append_ne_nil_of_left_ne_nil hne more
  refine .reply hlong (Reply.parse_append_of_ok hparse more) ?_
  rw [List.drop_append_of_le_length (Reply.parse_takes hparse).2]
  exact hrest

/-- A round that read all octets, or waits, goes on with the octets that follow. -/
theorem append (h : Drains limits octets replies stop left)
    (hstop : stop = none ∨ stop = some .incomplete)
    (h' : Drains limits (left ++ more) replies' stop' left') :
    Drains limits (octets ++ more) (replies ++ replies') stop' left' := by
  induction h with
  | empty => exact h'
  | stuck hne hparse => exact h'
  | reply hne hparse hrest ih => exact reply_append hne hparse (ih hstop h')

/-- A round that failed for good keeps the octets that follow. -/
theorem append_of_failed (h : Drains limits octets replies stop left) (hstop : stop = some fault)
    (hfault : fault ≠ .incomplete) (more : Bytes) :
    Drains limits (octets ++ more) replies stop (left ++ more) := by
  induction h with
  | empty => cases hstop
  | stuck hne hparse =>
      cases hstop
      exact .stuck (List.append_ne_nil_of_left_ne_nil hne more)
        (Reply.parse_append_of_error hparse hfault more)
  | reply hne hparse hrest ih => exact reply_append hne hparse (ih hstop)

end Drains

/-! ## Rounds one after the other -/

namespace StreamReader

/-- The replies of all rounds, in order. -/
def replies (limits : Limits) (reader : StreamReader) (chunks : List Bytes) : List Reply :=
  (receiveAll limits reader chunks).flatMap fun step => step.1.replies

/-- The state after the last round. -/
def final (limits : Limits) (reader : StreamReader) (chunks : List Bytes) : StreamReader :=
  ((receiveAll limits reader chunks).getLast?.map Prod.snd).getD reader

/-- The state that a round of a living reader leaves. -/
def after (stop : Option ParseFault) (left : Bytes) : StreamReader :=
  ⟨left, stop.filter fun fault => !fault.isIncomplete⟩

/-- A reader that read all octets, or waits, lives on. -/
theorem after_waiting {stop : Option ParseFault} (hstop : stop = none ∨ stop = some .incomplete)
    (left : Bytes) : after stop left = ⟨left, none⟩ := by
  rcases hstop with rfl | rfl
  · rfl
  · rfl

theorem after_failed {fault : ParseFault} (hfault : fault ≠ .incomplete) (left : Bytes) :
    after (some fault) left = ⟨left, some fault⟩ := by
  cases fault with
  | incomplete => exact absurd rfl hfault
  | _ => rfl

variable {reader : StreamReader}

theorem receive_of_drains {chunk left : Bytes} {replies : List Reply} {stop : Option ParseFault}
    (halive : reader.failure = none)
    (h : Drains limits (reader.buffer ++ chunk) replies stop left) :
    receive limits reader chunk = (⟨replies, stop⟩, after stop left) := by
  have hread := drains_readAll limits _ (reader.buffer ++ chunk) (Nat.le_refl _)
  obtain ⟨hreplies, hstop, hleft⟩ := hread.unique h
  rw [receive, isDead, halive]
  show (Round.mk (readAll _ _ _).1 (readAll _ _ _).2.1,
    after (readAll _ _ _).2.1 (readAll _ _ _).2.2) = _
  rw [hreplies, hstop, hleft]

theorem receive_of_failed {fault : ParseFault} (hdead : reader.failure = some fault)
    (chunk : Bytes) :
    receive limits reader chunk = (⟨[], none⟩, ⟨reader.buffer ++ chunk, some fault⟩) := by
  rw [receive, isDead, hdead]
  rfl

/-- Two chunks in one round give what they give in two rounds. -/
theorem receive_append (limits : Limits) (reader : StreamReader) (a b : Bytes) :
    (receive limits reader (a ++ b)).1.replies =
        (receive limits reader a).1.replies ++
          (receive limits (receive limits reader a).2 b).1.replies ∧
      (receive limits reader (a ++ b)).2 = (receive limits (receive limits reader a).2 b).2 := by
  cases halive : reader.failure with
  | some fault =>
      rw [receive_of_failed halive, receive_of_failed halive, receive_of_failed rfl]
      exact ⟨rfl, by rw [List.append_assoc]⟩
  | none =>
      obtain ⟨first, stop, left, h⟩ := exists_drains limits (reader.buffer ++ a)
      rw [receive_of_drains halive h]
      by_cases hstop : stop = none ∨ stop = some .incomplete
      -- the reader lives on, and its buffer is what the first round left
      · obtain ⟨second, stop', left', h'⟩ := exists_drains limits (left ++ b)
        have hboth := h.append hstop h'
        rw [List.append_assoc] at hboth
        rw [receive_of_drains halive hboth, after_waiting hstop, receive_of_drains rfl h']
        exact ⟨rfl, rfl⟩
      -- the reader is dead, and later octets are kept behind those left
      · obtain ⟨hsome, hincomplete⟩ := not_or.1 hstop
        obtain ⟨fault, rfl⟩ := Option.ne_none_iff_exists'.1 hsome
        have hfault : fault ≠ .incomplete := fun heq => hincomplete (by rw [heq])
        have hboth := h.append_of_failed rfl hfault b
        rw [List.append_assoc] at hboth
        have hdead : (after (some fault) left).failure = some fault := by
          rw [after_failed hfault]
        rw [receive_of_drains halive hboth, receive_of_failed hdead, after_failed hfault,
          after_failed hfault]
        exact ⟨(List.append_nil _).symm, rfl⟩

theorem replies_cons (chunk : Bytes) (chunks : List Bytes) :
    replies limits reader (chunk :: chunks) =
      (receive limits reader chunk).1.replies ++
        replies limits (receive limits reader chunk).2 chunks := rfl

theorem final_cons (chunk : Bytes) (chunks : List Bytes) :
    final limits reader (chunk :: chunks) =
      final limits (receive limits reader chunk).2 chunks := by
  rw [final, receiveAll, final]
  simp only [List.getLast?_cons, Option.map_some, Option.getD_some]
  cases (receiveAll limits (receive limits reader chunk).2 chunks).getLast? with
  | none => rfl
  | some step => rfl

/-- The rounds of some chunks give what one round gives with all their octets. -/
theorem rounds_eq_round (limits : Limits) (chunk : Bytes) (chunks : List Bytes) :
    ∀ reader : StreamReader,
      replies limits reader (chunk :: chunks) =
          (receive limits reader (chunk :: chunks).flatten).1.replies ∧
        final limits reader (chunk :: chunks) =
          (receive limits reader (chunk :: chunks).flatten).2 := by
  induction chunks generalizing chunk with
  | nil =>
      intro reader
      rw [replies_cons, final_cons, List.flatten_singleton]
      exact ⟨List.append_nil _, rfl⟩
  | cons next chunks ih =>
      intro reader
      obtain ⟨hreplies, hfinal⟩ := ih next (receive limits reader chunk).2
      obtain ⟨hreplies', hfinal'⟩ := receive_append limits reader chunk (next :: chunks).flatten
      rw [← List.flatten_cons] at hreplies' hfinal'
      rw [replies_cons, final_cons, hreplies, hfinal, hreplies', hfinal']
      exact ⟨rfl, rfl⟩

/-- The chunks of a stream do not matter: all rounds together give the replies of one round with all
the octets, and end in its state. Every round ends, when no octet is left or when those left cannot
be read, and each reply that it reads takes three octets or more of those there are. -/
theorem chunks_flatten (limits : Limits) :
    (∀ chunks : List Bytes,
      replies limits {} chunks = replies limits {} [chunks.flatten] ∧
        final limits {} chunks = final limits {} [chunks.flatten]) ∧
    (∀ octets : Bytes, Drains limits octets (readAll limits octets.length octets).1
      (readAll limits octets.length octets).2.1 (readAll limits octets.length octets).2.2) ∧
    (∀ (octets : Bytes) (reply : Reply) (taken : Nat),
      Reply.parse limits octets = .ok (reply, taken) → 3 ≤ taken ∧ taken ≤ octets.length) := by
  refine ⟨fun chunks => ?_, fun octets => drains_readAll limits _ octets (Nat.le_refl _),
    fun octets reply taken h => Reply.parse_takes h⟩
  cases chunks with
  | nil => exact ⟨rfl, rfl⟩
  | cons chunk chunks =>
      obtain ⟨hreplies, hfinal⟩ := rounds_eq_round limits chunk chunks {}
      obtain ⟨hreplies', hfinal'⟩ := rounds_eq_round limits (chunk :: chunks).flatten [] {}
      rw [List.flatten_singleton] at hreplies' hfinal'
      exact ⟨hreplies.trans hreplies'.symm, hfinal.trans hfinal'.symm⟩

/-- A status line cut inside its line ending, with an integer that waits behind it. -/
theorem chunks_flatten_status :
    replies {} {} [[43, 79], [], [75, 13], [10, 58, 49]] = [.simple [79, 75]] ∧
      final {} {} [[43, 79], [], [75, 13], [10, 58, 49]] = ⟨[58, 49], none⟩ ∧
      Reply.parse {} [43, 79, 75, 13, 10, 58, 49] = .ok (.simple [79, 75], 5) ∧
      3 ≤ 5 ∧ 5 ≤ [43, 79, 75, 13, 10, 58, 49].length := by
  obtain ⟨hchunks, _, htakes⟩ := chunks_flatten {}
  obtain ⟨hreplies, hfinal⟩ := hchunks [[43, 79], [], [75, 13], [10, 58, 49]]
  exact ⟨hreplies.trans rfl, hfinal.trans rfl, rfl,
    htakes [43, 79, 75, 13, 10, 58, 49] (.simple [79, 75]) 5 rfl⟩

end StreamReader

end RespClient
