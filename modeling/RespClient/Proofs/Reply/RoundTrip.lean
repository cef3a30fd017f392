import RespClient.Proofs.Reply.Acceptance

/-!
# Written replies read back

A reader with limits gives back every reply that is within them from its wire form, and refuses
every other one with a fault that names a limit, whatever octets follow (`Reply.parse_encode`).
-/

set_option autoImplicit false

namespace RespClient

namespace Reply

/-- A framable reply within the limits is read back from its wire form, whatever follows, and takes
exactly the octets that it announced. One that is not within the limits is refused with a fault that
names a limit. -/
theorem parse_encode (limits : Limits) (r : Reply) (rest : Bytes) (h : r.Framable) :
    (r.Within limits → parse limits (r.encode ++ rest) = .ok (r, r.encodedLength)) ∧
      (¬ r.Within limits → ∃ fault, fault.isLimit = true ∧
        parse limits (r.encode ++ rest) = .error fault) := by
  have hparse : Gated (r.Within limits) (parse limits (r.encode ++ rest)) (r, r.encode.length) :=
    gated_parse (derives_encode r h) rest
  rw [length_encode] at hparse
  exact ⟨hparse.eq_ok, hparse.eq_error⟩

/-- A reply of nested kinds, within the default limits and not within a depth of one. -/
theorem parse_encode_nested :
    let attributes : List (Reply × Reply) := [(.simple [107], .integer (.zero .int64))]
    let r : Reply := .attribute attributes
      (.push [.verbatim ⟨116, 120, 116⟩ [13, 10], .null, .map []])
    r.Framable ∧ r.Within {} ∧ ¬ r.Within { maxDepth := 1 } ∧
      parse {} (r.encode ++ [42]) = .ok (r, r.encodedLength) ∧
      ∃ fault, fault.isLimit = true ∧
        parse { maxDepth := 1 } (r.encode ++ [42]) = .error fault := by
  intro attributes r
  have hframable : r.Framable := by decide
  have hwithin : r.Within {} := by decide
  have hdeep : ¬ r.Within { maxDepth := 1 } := by decide
  exact ⟨hframable, hwithin, hdeep, (parse_encode {} r [42] hframable).1 hwithin,
    (parse_encode { maxDepth := 1 } r [42] hframable).2 hdeep⟩

end Reply

end RespClient
