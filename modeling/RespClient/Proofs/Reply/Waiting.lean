import RespClient.Proofs.Reply.Extension
import RespClient.Proofs.Reply.Recognition

/-!
# Waiting for the rest of a reply

A reader waits exactly as long as the reply is not all there, and what it says then is final
(`Reply.waits_then_final`). A reply is read from the octets of its frame alone, so every front that
has them gives the same reply (`Reply.parse_of_prefix`). A shorter front cannot give a reply or a
fault of its own, since either one would still stand with the rest of the frame
(`Reply.parse_of_short_prefix`).
-/

set_option autoImplicit false

namespace RespClient.Reply

variable {limits : Limits} {octets front : Bytes} {r : Reply} {taken : Nat}

/-- The octets of a reply give it without those that follow. -/
theorem parse_take (h : parse limits octets = .ok (r, taken)) :
    parse limits (octets.take taken) = .ok (r, taken) := by
  have hwithin := within_of_parse h
  obtain ⟨frame, rest, rfl, rfl, hframe⟩ := derives_of_parse h
  -- a frame within the limits is read whatever follows, so also when nothing does
  have hparse := (gated_parse hframe []).eq_ok hwithin
  rw [List.append_nil] at hparse
  rw [List.take_left]
  exact hparse

/-- A front with all the octets of the reply gives it. -/
theorem parse_of_prefix (h : parse limits octets = .ok (r, taken)) (hfront : front <+: octets)
    (hlength : taken ≤ front.length) : parse limits front = .ok (r, taken) := by
  have hframe : octets.take taken <+: front :=
    List.prefix_of_prefix_length_le (List.take_prefix taken octets) hfront
      (Nat.le_trans (List.length_take_le taken octets) hlength)
  obtain ⟨more, rfl⟩ := hframe
  exact parse_append_of_ok (parse_take h) more

/-- A front without the last octets of the reply waits for them. -/
theorem parse_of_short_prefix (h : parse limits octets = .ok (r, taken)) (hfront : front <+: octets)
    (hlength : front.length < taken) : parse limits front = .error .incomplete := by
  obtain ⟨rest, rfl⟩ := hfront
  cases hparse : parse limits front with
  | ok result =>
      -- the reply of the front would be the reply of all octets, and takes more than the front has
      obtain ⟨r', taken'⟩ := result
      have hlong := parse_append_of_ok hparse rest
      rw [h] at hlong
      cases hlong
      have htakes := parse_takes hparse
      omega
  | error fault =>
      -- so would a fault that is no wait
      by_contra hfault
      have hlong := parse_append_of_error hparse (fun heq => hfault (by rw [heq])) rest
      rw [h] at hlong
      cases hlong

/-- A reader waits exactly as long as the reply is not all there. When it gives a reply, the octets
of the reply are there, whatever follows changes nothing, every front that has them gives the same
reply, and every shorter front waits. A fault that is no wait stays, with all that it says, whatever
follows. -/
theorem waits_then_final (limits : Limits) (octets more : Bytes) :
    (∀ r taken, parse limits octets = .ok (r, taken) →
      taken ≤ octets.length ∧ parse limits (octets ++ more) = .ok (r, taken) ∧
      (∀ front, front <+: octets → taken ≤ front.length → parse limits front = .ok (r, taken)) ∧
      ∀ front, front <+: octets → front.length < taken →
        parse limits front = .error .incomplete) ∧
    ∀ fault, parse limits octets = .error fault → fault ≠ .incomplete →
      parse limits (octets ++ more) = .error fault := by
  constructor
  · intro r taken h
    exact ⟨(parse_takes h).2, parse_append_of_ok h more,
      fun front hfront hlength => parse_of_prefix h hfront hlength,
      fun front hfront hlength => parse_of_short_prefix h hfront hlength⟩
  · intro fault h hfault
    exact parse_append_of_error h hfault more

/-- A text with attributes, and an octet of the next reply. Cut between the two octets that end the
text, it waits. An array is refused at the marker of its second item, although a third one is not
there. -/
theorem waits_then_final_cut :
    let octets : Bytes :=
      [124, 49, 13, 10, 43, 107, 13, 10, 95, 13, 10, 36, 49, 13, 10, 104, 13, 10, 43]
    let attributes : List (Reply × Reply) := [(.simple [107], .null)]
    let r : Reply := .attribute attributes (.bulk [104])
    let malformed : Bytes := [42, 51, 13, 10, 95, 13, 10, 64]
    parse {} octets = .ok (r, 18) ∧ parse {} (octets.take 18) = .ok (r, 18) ∧
      octets.take 17 <+: octets ∧ parse {} (octets.take 17) = .error .incomplete ∧
      parse {} malformed = .error (.badMarker 64) ∧
      parse {} (malformed ++ [13]) = .error (.badMarker 64) := by
  intro octets attributes r malformed
  have hparse : parse {} octets = .ok (r, 18) := rfl
  have hmalformed : parse {} malformed = .error (.badMarker 64) := rfl
  obtain ⟨hreply, -⟩ := waits_then_final {} octets []
  obtain ⟨-, -, hlong, hshort⟩ := hreply r 18 hparse
  obtain ⟨-, hfault⟩ := waits_then_final {} malformed [13]
  have hcut : octets.take 17 <+: octets := List.take_prefix 17 octets
  exact ⟨hparse, hlong _ (List.take_prefix 18 octets) (by decide), hcut, hshort _ hcut (by decide),
    hmalformed, hfault _ hmalformed nofun⟩

end RespClient.Reply
