import RespClient.Proofs.Reply.Frame
import RespClient.Reply.Indexed

/-!
# Lines and texts by index

A step on an index does what the step on the octets there does, and does not trap (`Refines`), as
long as the index is inside the octets and stands where the other step begins (`PointsTo`). This is
shown for lines (`refines_lineEnd`), integers, numbers and texts after their length
(`refines_blob`). A text needs more than that its octets have indices: its length is announced and
only then compared with what is there, so the sum of an index and an announced length has to be a
machine word, too.
-/

set_option autoImplicit false

namespace RespClient

/-! ## Steps that do not trap -/

namespace Checked

variable {α β γ : Type}

@[simp] theorem ok_bind (a : α) (next : α → Checked β) : (Checked.ok a >>= next) = next a := rfl

@[simp] theorem trapped_bind (trap : Trap) (next : α → Checked β) :
    (Checked.trapped trap >>= next) = .trapped trap := rfl

theorem bind_bind (step : Checked α) (next : α → Checked β) (last : β → Checked γ) :
    ((step >>= next) >>= last) = step >>= fun a => next a >>= last := by
  cases step with
  | ok a => rfl
  | refused fault => rfl
  | trapped trap => rfl

theorem wordMax_eq : wordMax = 2 ^ 64 - 1 := rfl

/-- Fewer octets than 2 ^ 63 - 1 have indices that are machine words. -/
theorem le_wordMax {n : Nat} (h : n < 2 ^ 63 - 1) : n ≤ wordMax :=
  Nat.le_trans (Nat.le_of_lt h) (by decide)

/-- A number up to the greatest machine word is a machine word. -/
theorem exists_word? {n : Nat} (h : n ≤ wordMax) : ∃ w : UInt64, w.toNat = n ∧ word? n = some w :=
  ⟨UInt64.ofNat n, UInt64.toNat_ofNat_of_lt' (Nat.lt_succ_of_le h), if_pos h⟩

theorem word?_eq_none {n : Nat} (h : wordMax < n) : word? n = none := if_neg (Nat.not_le.2 h)

theorem exists_word {n : Nat} (h : n ≤ wordMax) : ∃ w : UInt64, w.toNat = n ∧ word n = .ok w := by
  obtain ⟨w, hw, hword⟩ := exists_word? h
  exact ⟨w, hw, by rw [word, hword]⟩

theorem exists_add {a b : UInt64} (h : a.toNat + b.toNat ≤ wordMax) :
    ∃ c : UInt64, c.toNat = a.toNat + b.toNat ∧ add a b = .ok c :=
  exists_word h

theorem add_trapped {a b : UInt64} (h : wordMax < a.toNat + b.toNat) :
    add a b = .trapped .overflow := by
  rw [add, word, word?_eq_none h]

/-- An integer of the wire that is not negative is a machine word, far below the greatest one. -/
theorem exists_wordOfInt {n : Int64Value} (h : ¬ n.val < 0) :
    ∃ w : UInt64, w.toNat = n.val.toNat ∧ w.toNat < 2 ^ 63 ∧ wordOfInt n.val = .ok w := by
  have hhigh : n.val ≤ 2 ^ 63 - 1 := n.le_above
  have hlt : n.val.toNat < 2 ^ 63 := by omega
  obtain ⟨w, hw, hword⟩ := exists_word (Nat.le_trans (Nat.le_of_lt hlt) (by decide))
  exact ⟨w, hw, hw ▸ hlt, by rw [wordOfInt, if_neg h, hword]⟩

/-- A text that stands at an index is the range from there up to its end. -/
theorem slice_of_drop_eq {octets text rest : Bytes} {first last : UInt64}
    (hdrop : octets.drop first.toNat = text ++ rest) (hfirst : first.toNat ≤ octets.length)
    (hlast : last.toNat = first.toNat + text.length) : slice octets first last = .ok text := by
  have hlength := congrArg List.length hdrop
  rw [List.length_drop, List.length_append] at hlength
  have hle : first ≤ last := UInt64.le_iff_toNat_le.2 (by omega)
  rw [slice, if_pos ⟨hle, by omega⟩, List.drop_take, hdrop, hlast, Nat.add_sub_cancel_left,
    List.take_left]

end Checked

/-- A checked step against one that cannot trap: it does not trap either, and refuses the octets
with the same fault or gives a related result. -/
inductive Refines {α β : Type} (related : α → β → Prop) : Checked α → Except ParseFault β → Prop
  | ok {a : α} {b : β} (h : related a b) : Refines related (.ok a) (.ok b)
  | refused {fault : ParseFault} : Refines related (.refused fault) (.error fault)

namespace Refines

variable {α β γ δ : Type} {related : α → β → Prop} {related' : γ → δ → Prop} {step : Checked α}
  {step' : Except ParseFault β}

theorem mono {other : α → β → Prop} (h : Refines related step step')
    (himp : ∀ a b, related a b → other a b) : Refines other step step' := by
  cases h with
  | ok h => exact .ok (himp _ _ h)
  | refused => exact .refused

/-- A step, and then one that depends on its result. -/
theorem bind {next : α → Checked γ} {next' : β → Except ParseFault δ}
    (h : Refines related step step')
    (hnext : ∀ a b, related a b → Refines related' (next a) (next' b)) :
    Refines related' (step >>= next) (step' >>= next') := by
  cases h with
  | ok h => exact hnext _ _ h
  | refused => exact .refused

/-- The result of the second step may be used beside the relation. -/
theorem and_eq (h : Refines related step step') :
    Refines (fun a b => related a b ∧ step' = .ok b) step step' := by
  cases h with
  | ok h => exact .ok ⟨h, rfl⟩
  | refused => exact .refused

theorem exists_ok {b : β} (h : Refines related step (.ok b)) : ∃ a, step = .ok a ∧ related a b := by
  cases h with
  | ok h => exact ⟨_, rfl, h⟩

theorem not_trapped (h : Refines related step step') (trap : Trap) : step ≠ .trapped trap := by
  cases h with
  | ok h => nofun
  | refused => nofun

/-- Results that are equal up to a function: with it, the steps are equal. -/
theorem map_eq {f : α → β} (h : Refines (fun a b => f a = b) step step') :
    step.map f = .ofOutcome step' := by
  cases h with
  | ok h => exact congrArg Checked.ok h
  | refused => rfl

end Refines

/-! ## Indices inside the octets -/

/-- The index is inside the octets or directly behind them, and `rest` stands there, of at most
`bound` octets. -/
structure PointsTo (octets : Bytes) (bound : Nat) (index : UInt64) (rest : Bytes) : Prop where
  le_length : index.toNat ≤ octets.length
  drop_eq : octets.drop index.toNat = rest
  length_le : rest.length ≤ bound

namespace PointsTo

variable {octets rest : Bytes} {bound : Nat} {index next : UInt64}

theorem add_length (h : PointsTo octets bound index rest) :
    index.toNat + rest.length = octets.length := by
  have hindex := h.le_length
  rw [← h.drop_eq, List.length_drop]
  omega

/-- The index behind some of the octets points to the others. -/
theorem advance {front : Bytes} (h : PointsTo octets bound index (front ++ rest))
    (hnext : next.toNat = index.toNat + front.length) : PointsTo octets bound next rest := by
  have hlength := h.add_length
  have hbound := h.length_le
  rw [List.length_append] at hlength hbound
  refine ⟨by omega, ?_, by omega⟩
  rw [hnext, ← List.drop_drop, h.drop_eq, List.drop_left]

theorem getElem?_eq (h : PointsTo octets bound index rest) :
    octets[index.toNat]? = rest.head? := by
  rw [← h.drop_eq, List.head?_drop]

/-- An octet has an index, and the index behind it is a machine word. -/
theorem exists_next {octet : UInt8} (hword : octets.length ≤ wordMax)
    (h : PointsTo octets (bound + 1) index (octet :: rest)) :
    ∃ next, Checked.add index 1 = .ok next ∧ PointsTo octets bound next rest := by
  have hlength := h.add_length
  rw [List.length_cons] at hlength
  obtain ⟨next, hnext, hadd⟩ := Checked.exists_add (a := index) (b := 1)
    (by show _ + 1 ≤ _; omega)
  have hfront : PointsTo octets (bound + 1) index ([octet] ++ rest) := h
  have hrest := hfront.advance hnext
  exact ⟨next, hadd, hrest.le_length, hrest.drop_eq, Nat.le_of_succ_le_succ h.length_le⟩

theorem mono {bound' : Nat} (h : PointsTo octets bound index rest) (hle : bound ≤ bound') :
    PointsTo octets bound' index rest :=
  ⟨h.le_length, h.drop_eq, Nat.le_trans h.length_le hle⟩

end PointsTo

/-- The results are equal, and the index of the one points to the octets that the other left. -/
def Follows {α : Type} (octets : Bytes) (bound : Nat) (result : α × UInt64)
    (result' : α × Bytes) : Prop :=
  result.1 = result'.1 ∧ PointsTo octets bound result.2 result'.2

/-! ## Lines -/

/-- A line ends at the first return octet. -/
theorem takeLine_eq (octets : Bytes) :
    takeLine octets =
      match octets.idxOf? 13 with
      | none => .error .incomplete
      | some n =>
        match octets[n + 1]? with
        | none => .error .incomplete
        | some c =>
          if c = 10 then .ok (octets.take n, octets.drop (n + 2))
          else .error (.badFraming .returnWithoutFeed) := by
  induction octets with
  | nil => rfl
  | cons b octets ih =>
      by_cases hb : b = 13
      · subst hb
        cases octets with
        | nil => rfl
        | cons c after => rfl
      · rw [takeLine_cons_of_ne hb, ih, List.idxOf?_cons, if_neg (by simpa using hb)]
        cases octets.idxOf? 13 with
        | none => rfl
        | some n =>
            simp only [Option.map_some, List.getElem?_cons_succ]
            cases octets[n + 1]? with
            | none => rfl
            | some c =>
                by_cases hc : c = 10
                · simp only [if_pos hc]
                  rfl
                · simp only [if_neg hc]
                  rfl

/-- The line from an index ends at another one, with its line ending behind it. -/
structure EndsLine (rest : Bytes) (start last : UInt64) (parts : Bytes × Bytes) : Prop where
  toNat_eq : last.toNat = start.toNat + parts.1.length
  rest_eq : rest = parts.1 ++ (crlf ++ parts.2)

section

variable {octets rest : Bytes} {bound : Nat} {start last : UInt64} {parts : Bytes × Bytes}

theorem refines_lineEnd (hword : octets.length ≤ wordMax) (h : PointsTo octets bound start rest) :
    Refines (EndsLine rest start) (Indexed.lineEnd octets start) (takeLine rest) := by
  have hlength := h.add_length
  rw [Indexed.lineEnd, if_neg (Nat.not_lt.2 h.le_length), h.drop_eq]
  have htake := takeLine_eq rest
  simp only
  cases hsearch : rest.idxOf? 13 with
  | none =>
      rw [htake, hsearch]
      exact .refused
  | some n =>
      -- the return octet is inside the octets, so the index behind it is a word even if no octet
      -- is there
      obtain ⟨hn, -⟩ := List.idxOf?_eq_some_iff.1 hsearch
      obtain ⟨length, hlengthval, hwordn⟩ := Checked.exists_word (n := n) (by omega)
      obtain ⟨behind, hbehind, hadd⟩ := Checked.exists_add (a := length) (b := 1)
        (by show _ + 1 ≤ _; omega)
      have hbehindval : behind.toNat = n + 1 := by rw [hbehind, hlengthval]; rfl
      simp only [hwordn, Checked.ok_bind, hadd, hbehindval]
      rw [hsearch] at htake
      simp only at htake
      cases hc : rest[n + 1]? with
      | none =>
          rw [htake, hc]
          exact .refused
      | some c =>
          rw [hc] at htake
          simp only at htake ⊢
          by_cases hfeed : c = 10
          · obtain ⟨last, hlast, hsum⟩ := Checked.exists_add (a := start) (b := length) (by omega)
            rw [if_pos hfeed] at htake ⊢
            rw [htake, hsum]
            refine .ok ⟨?_, (takeLine_eq_ok_iff.1 htake).2⟩
            rw [hlast, hlengthval, List.length_take, Nat.min_eq_left (Nat.le_of_lt hn)]
          · rw [if_neg hfeed] at htake ⊢
            rw [htake]
            exact .refused

theorem EndsLine.slice_eq (hline : EndsLine rest start last parts)
    (h : PointsTo octets bound start rest) : Checked.slice octets start last = .ok parts.1 :=
  Checked.slice_of_drop_eq (h.drop_eq.trans hline.rest_eq) h.le_length hline.toNat_eq

/-- There is room for the line ending. -/
theorem EndsLine.exists_next (hline : EndsLine rest start last parts)
    (hword : octets.length ≤ wordMax) (h : PointsTo octets bound start rest) :
    ∃ next, Checked.add last 2 = .ok next ∧ PointsTo octets bound next parts.2 := by
  have hlength := h.add_length
  have hfront : PointsTo octets bound start ((parts.1 ++ crlf) ++ parts.2) := by
    rw [List.append_assoc, ← hline.rest_eq]
    exact h
  rw [hline.rest_eq, ← List.append_assoc, List.length_append] at hlength
  have hend : (parts.1 ++ crlf).length = parts.1.length + 2 := by
    rw [List.length_append]
    rfl
  have hlast := hline.toNat_eq
  obtain ⟨next, hnext, hadd⟩ := Checked.exists_add (a := last) (b := 2)
    (by show _ + 2 ≤ _; omega)
  refine ⟨next, hadd, hfront.advance ?_⟩
  rw [hnext, hend, hlast]
  rfl

/-! ## Numbers -/

theorem refines_integer (hword : octets.length ≤ wordMax) (h : PointsTo octets bound start rest) :
    Refines (Follows octets bound) (Indexed.integer octets start) (takeInteger rest) := by
  refine (refines_lineEnd hword h).bind fun last parts hline => ?_
  obtain ⟨next, hadd, hnext⟩ := hline.exists_next hword h
  simp only [hline.slice_eq h, Checked.ok_bind]
  cases Utf8.decode parts.1 with
  | error fault => exact .refused
  | ok text =>
      simp only
      cases Decimal.read .int64 text with
      | error fault => exact .refused
      | ok n =>
          simp only [hadd, Checked.ok_bind]
          exact .ok ⟨rfl, hnext⟩

theorem refines_double (hword : octets.length ≤ wordMax) (h : PointsTo octets bound start rest) :
    Refines (Follows octets bound) (Indexed.double octets start) (takeDouble rest) := by
  refine (refines_lineEnd hword h).bind fun last parts hline => ?_
  obtain ⟨next, hadd, hnext⟩ := hline.exists_next hword h
  simp only [hline.slice_eq h, Checked.ok_bind]
  cases Utf8.decode parts.1 with
  | error fault => exact .refused
  | ok text =>
      simp only
      cases Literal.read? .double text with
      | none => exact .refused
      | some x =>
          simp only [hadd, Checked.ok_bind]
          exact .ok ⟨rfl, hnext⟩

/-! ## Texts after their length -/

/-- A text of `n` octets and its line ending are the ranges between the indices that are counted up
by their lengths. -/
theorem PointsTo.slices {after left : Bytes} {b c : UInt8} {n : Nat} {first last next : UInt64}
    (h : PointsTo octets bound first after) (hdrop : after.drop n = b :: c :: left)
    (hlast : last.toNat = first.toNat + n) (hnext : next.toNat = last.toNat + 2) :
    Checked.slice octets first last = .ok (after.take n) ∧
      Checked.slice octets last next = .ok [b, c] ∧ PointsTo octets bound next left := by
  have hlength := congrArg List.length hdrop
  rw [List.length_drop, List.length_cons, List.length_cons] at hlength
  have htext : (after.take n).length = n := by
    rw [List.length_take]
    omega
  have hsplit : after = after.take n ++ ([b, c] ++ left) := by
    have hboth := (List.take_append_drop n after).symm
    rwa [hdrop] at hboth
  have hbehind : PointsTo octets bound last ([b, c] ++ left) := by
    rw [hsplit] at h
    exact h.advance (by rw [hlast, htext])
  refine ⟨?_, ?_, hbehind.advance hnext⟩
  · exact Checked.slice_of_drop_eq (h.drop_eq.trans hsplit) h.le_length (by rw [hlast, htext])
  · exact Checked.slice_of_drop_eq hbehind.drop_eq hbehind.le_length hnext

/-- An announced length is below 2 ^ 63, so behind octets with indices below that the end of the
text and of its line ending are machine words, even where there are no such octets. -/
theorem refines_blob {limits : Limits} (hlong : octets.length < 2 ^ 63 - 1)
    (h : PointsTo octets bound start rest) :
    Refines (Follows octets bound) (Indexed.blob limits octets start) (takeBlob limits rest) := by
  refine (refines_integer (Checked.le_wordMax hlong) h).bind fun header header' hheader => ?_
  obtain ⟨n, first⟩ := header
  obtain ⟨n', after⟩ := header'
  obtain ⟨rfl, hfirst⟩ := hheader
  simp only at hfirst
  by_cases hneg : n.val < 0
  · simp only [if_pos hneg]
    exact .ok ⟨rfl, hfirst⟩
  obtain ⟨length, hlength, hbelow, hwordn⟩ := Checked.exists_wordOfInt hneg
  simp only [if_neg hneg, hwordn, Checked.ok_bind, UInt64.lt_iff_toNat_lt, ← hlength]
  by_cases hlimit : limits.maxBulk.toNat < length.toNat
  · simp only [if_pos hlimit]
    exact .refused
  -- nothing is known yet of the octets behind the header: both sums rest on `hbelow` and `hlong`
  have hinside := hfirst.le_length
  have hmax := Checked.wordMax_eq
  obtain ⟨last, hlast, haddlast⟩ := Checked.exists_add (a := first) (b := length) (by omega)
  obtain ⟨next, hnext, haddnext⟩ := Checked.exists_add (a := last) (b := 2)
    (by show _ + 2 ≤ _; omega)
  have hnextval : next.toNat = last.toNat + 2 := hnext
  have hthere := hfirst.add_length
  have hleft : (after.drop length.toNat).length = after.length - length.toNat := List.length_drop
  simp only [if_neg hlimit, haddlast, haddnext, Checked.ok_bind]
  -- the two octets behind the text are there exactly if the index behind them is inside
  match hdrop : after.drop length.toNat with
  | [] =>
      rw [hdrop, List.length_nil] at hleft
      rw [if_pos (by omega)]
      exact .refused
  | [_] =>
      rw [hdrop, List.length_singleton] at hleft
      rw [if_pos (by omega)]
      exact .refused
  | b :: c :: left =>
      rw [hdrop, List.length_cons, List.length_cons] at hleft
      obtain ⟨htext, hending, hbehind⟩ := hfirst.slices hdrop hlast hnextval
      have hcrlf : [b, c] = crlf ↔ b = 13 ∧ c = 10 := by simp [crlf]
      rw [if_neg (by omega), hending]
      simp only [Checked.ok_bind, hcrlf, htext]
      by_cases hend : b = 13 ∧ c = 10
      · simp only [if_pos hend]
        exact .ok ⟨rfl, hbehind⟩
      · simp only [if_neg hend]
        exact .refused

end

/-- Four octets at least have the indices that are read. -/
theorem verbatimParts_eq {text : Bytes} (hword : text.length ≤ wordMax) :
    Indexed.verbatimParts text =
      match verbatimParts? text with
      | none => .refused .badVerbatim
      | some parts => .ok parts := by
  match text with
  | [] => rfl
  | [_] => rfl
  | [_, _] => rfl
  | [_, _, _] => rfl
  | a :: b :: c :: d :: rest =>
      obtain ⟨length, hlength, hwordn⟩ := Checked.exists_word hword
      have hslice : Checked.slice (a :: b :: c :: d :: rest) 4 length = .ok rest := by
        have hdrop : (a :: b :: c :: d :: rest).drop 4 = rest ++ [] := (List.append_nil rest).symm
        refine Checked.slice_of_drop_eq hdrop ?_ ?_
        · exact Nat.le_add_left 4 rest.length
        · rw [hlength]
          exact Nat.add_comm rest.length 4
      have hindex : ∀ octet ∈ [(0, a), (1, b), (2, c), (3, d)],
          Checked.octetAt (a :: b :: c :: d :: rest) octet.1 = .ok octet.2 := by
        simp only [List.forall_mem_cons]
        exact ⟨rfl, rfl, rfl, rfl, nofun⟩
      simp only [List.forall_mem_cons] at hindex
      obtain ⟨hfirst, hsecond, hthird, hcolon, -⟩ := hindex
      have hfour : ¬ (a :: b :: c :: d :: rest).length < 4 :=
        Nat.not_lt.2 (Nat.le_add_left 4 rest.length)
      rw [Indexed.verbatimParts, if_neg hfour, verbatimParts?]
      simp only [hcolon, Checked.ok_bind]
      by_cases hd : d = 58
      · simp only [if_pos hd, hfirst, hsecond, hthird, hwordn, hslice, Checked.ok_bind]
      · simp only [if_neg hd]

end RespClient
