import Mathlib.Data.List.DropRight
import RespClient.Text.Split

/-!
# Lines and words put together and cut again

Text that was put together from words, from fields or from a front and a back is cut into the same
parts again (`words_intercalate`, `splitFirst_append`, `splitLast_append`), and blanks around it
make no difference (`trim_between`, `words_trim`). `HasLines` says which lines a text has, and
`Lists` which contents such lines list, with other lines between them; the trimmed lines of a text
are those that hold more than blanks (`trimmedLines_of_hasLines`).
-/

set_option autoImplicit false

namespace RespClient.Text

/-! ## Blanks at both ends -/

/-- Text of blanks only. -/
def IsBlankText (text : List Char) : Prop := ∀ c ∈ text, isBlank c = true

instance : DecidablePred IsBlankText := fun text => List.decidableBAll _ text

variable {text left right : List Char}

theorem trim_eq (text : List Char) :
    trim text = (text.dropWhile isBlank).rdropWhile isBlank := rfl

theorem rdropWhile_append_blank (h : IsBlankText right) :
    (text ++ right).rdropWhile isBlank = text.rdropWhile isBlank := by
  have hreverse : ∀ c ∈ right.reverse, isBlank c = true := fun c hc => h c (List.mem_reverse.1 hc)
  rw [List.rdropWhile, List.reverse_append, List.dropWhile_append_of_pos hreverse]
  rfl

theorem dropWhile_append_cons {p : Char → Bool} {c : Char} (hc : p c = false)
    (front back : List Char) :
    (front ++ c :: back).dropWhile p = front.dropWhile p ++ c :: back := by
  induction front with
  | nil => simp [hc]
  | cons d front ih =>
      rw [List.cons_append, List.dropWhile_cons, List.dropWhile_cons, ih]
      split
      · rfl
      · rfl

theorem rdropWhile_append_cons {p : Char → Bool} {c : Char} (hc : p c = false)
    (front back : List Char) :
    (front ++ c :: back).rdropWhile p = front ++ c :: back.rdropWhile p := by
  have hreverse : (front ++ c :: back).reverse = back.reverse ++ c :: front.reverse := by simp
  rw [List.rdropWhile, hreverse, dropWhile_append_cons hc, List.rdropWhile]
  simp

theorem trim_eq_nil_iff : trim text = [] ↔ IsBlankText text := by
  rw [trim_eq, List.rdropWhile_eq_nil_iff]
  constructor
  · intro h c hc
    rw [← List.takeWhile_append_dropWhile (p := isBlank) (l := text)] at hc
    rcases List.mem_append.1 hc with hc | hc
    · exact List.mem_takeWhile_imp hc
    · exact h c hc
  · intro h
    rw [List.dropWhile_eq_nil_iff.2 h]
    exact nofun

theorem trim_blank_append (h : IsBlankText left) : trim (left ++ text) = trim text := by
  rw [trim_eq, trim_eq, List.dropWhile_append_of_pos h]

theorem trim_append_blank (h : IsBlankText right) : trim (text ++ right) = trim text := by
  by_cases hblank : IsBlankText text
  -- a blank text is dropped whole, and then there is no end to trim
  · have happend : IsBlankText (text ++ right) := List.forall_mem_append.2 ⟨hblank, h⟩
    rw [trim_eq_nil_iff.2 hblank, trim_eq_nil_iff.2 happend]
  · have hne : (text.dropWhile isBlank).isEmpty = false := by
      rw [List.isEmpty_eq_false_iff]
      exact fun hnil => hblank (List.dropWhile_eq_nil_iff.1 hnil)
    rw [trim_eq, trim_eq, List.dropWhile_append, hne, if_neg Bool.false_ne_true,
      rdropWhile_append_blank h]

/-- Blanks around a text make no difference to the trimmed text. -/
theorem trim_between (hleft : IsBlankText left) (hright : IsBlankText right) :
    trim (left ++ text ++ right) = trim text := by
  rw [trim_append_blank hright, trim_blank_append hleft]

/-- A text is the trimmed text between blanks. -/
theorem exists_eq_between (text : List Char) :
    ∃ left right, IsBlankText left ∧ IsBlankText right ∧ text = left ++ trim text ++ right := by
  refine ⟨text.takeWhile isBlank, (text.dropWhile isBlank).rtakeWhile isBlank,
    fun c hc => List.mem_takeWhile_imp hc, fun c hc => List.mem_rtakeWhile_imp hc, ?_⟩
  rw [trim_eq, List.append_assoc, List.rdropWhile_append_rtakeWhile,
    List.takeWhile_append_dropWhile]

theorem trim_rdropWhile (text : List Char) : trim (text.rdropWhile isBlank) = trim text := by
  have hend : IsBlankText (text.rtakeWhile isBlank) := fun c hc => List.mem_rtakeWhile_imp hc
  rw [← trim_append_blank hend, List.rdropWhile_append_rtakeWhile]

/-- Trimming takes nothing away but blanks. -/
theorem mem_trim_iff {c : Char} (hc : isBlank c = false) : c ∈ trim text ↔ c ∈ text := by
  have hblank : ∀ {blanks : List Char}, IsBlankText blanks → c ∉ blanks := fun h hmem => by
    rw [h c hmem] at hc
    cases hc
  obtain ⟨left, right, hleft, hright, heq⟩ := exists_eq_between text
  conv => rhs; rw [heq]
  simp only [List.mem_append, hblank hleft, hblank hright, false_or, or_false]

/-- A trimmed text does not begin with a blank. -/
theorem isBlank_of_trim_eq {c : Char} {rest : List Char} (h : trim (c :: rest) = c :: rest) :
    isBlank c = false := by
  cases hc : isBlank c with
  | false => rfl
  | true =>
      -- trimming would take the blank away
      have hfront : (rest.dropWhile isBlank).rdropWhile isBlank <+: rest.dropWhile isBlank :=
        List.rdropWhile_prefix _ _
      have hshort := List.Sublist.length_le (hfront.sublist.trans (List.dropWhile_sublist _))
      rw [trim_eq, List.dropWhile_cons_of_pos hc] at h
      rw [h, List.length_cons] at hshort
      omega

/-! ## Fields -/

theorem fields_eq_splitOnP (p : Char → Bool) (text : List Char) :
    fields p text = text.splitOnP p := by
  induction text with
  | nil => rfl
  | cons c rest ih =>
      rw [fields, List.splitOnP_cons_eq_if_modifyHead, ih]
      split
      · rfl
      · cases hfields : rest.splitOnP p with
        | nil => exact absurd hfields (List.splitOnP_ne_nil p rest)
        | cons f fs => rfl

/-- Fields put together with a separator that none of them holds are found again. -/
theorem fields_intercalate {sep : Char} {parts : List (List Char)} (hne : parts ≠ [])
    (h : ∀ part ∈ parts, sep ∉ part) : fields (· == sep) ([sep].intercalate parts) = parts := by
  rw [fields_eq_splitOnP]
  exact List.splitOn_intercalate sep h hne

/-! ## Words -/

/-- Text that is one word: it is not empty and holds no blank. -/
def IsWord (text : List Char) : Prop := text ≠ [] ∧ ∀ c ∈ text, isBlank c = false

instance : DecidablePred IsWord := fun text =>
  have := List.decidableBAll (fun c => isBlank c = false) text
  inferInstanceAs (Decidable (_ ∧ _))

/-- A blank ends the words before it. -/
theorem words_append_cons {c : Char} (hc : isBlank c = true) (front back : List Char) :
    words (front ++ c :: back) = words front ++ words back := by
  rw [words, fields_eq_splitOnP, List.splitOnP_append_cons front back hc, List.filter_append,
    ← fields_eq_splitOnP, ← fields_eq_splitOnP, words, words]

theorem words_blank_append (h : IsBlankText left) : words (left ++ text) = words text := by
  induction left with
  | nil => rfl
  | cons c left ih =>
      obtain ⟨hc, hleft⟩ := List.forall_mem_cons.1 h
      have hcons := words_append_cons hc [] (left ++ text)
      rw [List.nil_append] at hcons
      rw [List.cons_append, hcons, ih hleft]
      rfl

theorem words_append_blank (h : IsBlankText right) : words (text ++ right) = words text := by
  cases right with
  | nil => rw [List.append_nil]
  | cons c right =>
      obtain ⟨hc, hright⟩ := List.forall_mem_cons.1 h
      have hnil : words right = [] := by
        have happend : words (right ++ []) = words [] := words_blank_append hright
        rwa [List.append_nil] at happend
      rw [words_append_cons hc, hnil, List.append_nil]

/-- Trimming a text takes no word away. -/
theorem words_trim (text : List Char) : words (trim text) = words text := by
  obtain ⟨left, right, hleft, hright, heq⟩ := exists_eq_between text
  conv => rhs; rw [heq]
  rw [words_append_blank hright, words_blank_append hleft]

theorem words_of_isWord (h : IsWord text) : words text = [text] := by
  rw [words, fields_eq_splitOnP, List.splitOnP_eq_singleton h.2]
  exact List.filter_eq_self.2 (by simp [h.1])

/-- Words put together with single spaces are found again. -/
theorem words_intercalate {parts : List (List Char)} (h : ∀ part ∈ parts, IsWord part) :
    words ([' '].intercalate parts) = parts := by
  induction parts with
  | nil => rfl
  | cons part parts ih =>
      obtain ⟨hpart, hparts⟩ := List.forall_mem_cons.1 h
      cases parts with
      | nil => rw [List.intercalate_singleton, words_of_isWord hpart]
      | cons next parts =>
          rw [List.intercalate_cons_cons, List.append_assoc, List.singleton_append,
            words_append_cons rfl, words_of_isWord hpart, ih hparts]
          rfl

/-- Words put together with something that is no blank are one word. -/
theorem isWord_intercalate {sep : List Char} (hsep : ∀ c ∈ sep, isBlank c = false)
    {parts : List (List Char)} (hne : parts ≠ []) (h : ∀ part ∈ parts, IsWord part) :
    IsWord (sep.intercalate parts) := by
  induction parts with
  | nil => exact absurd rfl hne
  | cons part parts ih =>
      obtain ⟨hpart, hparts⟩ := List.forall_mem_cons.1 h
      cases parts with
      | nil => rwa [List.intercalate_singleton]
      | cons next parts =>
          obtain ⟨-, hrest⟩ := ih (List.cons_ne_nil _ _) hparts
          rw [List.intercalate_cons_cons]
          refine ⟨by simp [hpart.1], List.forall_mem_append.2 ⟨?_, hrest⟩⟩
          exact List.forall_mem_append.2 ⟨hpart.2, hsep⟩

/-! ## Fronts and backs -/

section Split

variable {sep : Char} {front back : List Char}

theorem splitFirst_append (h : sep ∉ front) (back : List Char) :
    splitFirst sep (front ++ sep :: back) = some (front, back) := by
  induction front with
  | nil => exact if_pos rfl
  | cons c front ih =>
      obtain ⟨hne, hfront⟩ := List.ne_and_not_mem_of_not_mem_cons h
      rw [List.cons_append, splitFirst, if_neg (Ne.symm hne), ih hfront]
      rfl

theorem splitFirst_eq_none (h : sep ∉ text) : splitFirst sep text = none := by
  induction text with
  | nil => rfl
  | cons c text ih =>
      obtain ⟨hne, htext⟩ := List.ne_and_not_mem_of_not_mem_cons h
      rw [splitFirst, if_neg (Ne.symm hne), ih htext]
      rfl

/-- A text is split where the separator comes first, and put together again from the parts. -/
theorem splitFirst_eq_some_iff :
    splitFirst sep text = some (front, back) ↔ sep ∉ front ∧ text = front ++ sep :: back := by
  constructor
  · intro h
    induction text generalizing front with
    | nil => cases h
    | cons c text ih =>
        rw [splitFirst] at h
        split at h
        · next hc =>
          cases h
          exact ⟨List.not_mem_nil, by rw [hc]; rfl⟩
        · next hc =>
          obtain ⟨⟨rest, back'⟩, hrest, hparts⟩ := Option.map_eq_some_iff.1 h
          cases hparts
          obtain ⟨hnot, rfl⟩ := ih hrest
          exact ⟨List.not_mem_cons_of_ne_of_not_mem (Ne.symm hc) hnot, rfl⟩
  · rintro ⟨h, rfl⟩
    exact splitFirst_append h back

theorem splitLast_eq_none (h : sep ∉ text) : splitLast sep text = none := by
  induction text with
  | nil => rfl
  | cons c text ih =>
      obtain ⟨hne, htext⟩ := List.ne_and_not_mem_of_not_mem_cons h
      rw [splitLast, ih htext]
      exact if_neg (Ne.symm hne)

theorem splitLast_append (front : List Char) (h : sep ∉ back) :
    splitLast sep (front ++ sep :: back) = some (front, back) := by
  induction front with
  | nil =>
      rw [List.nil_append, splitLast, splitLast_eq_none h]
      exact if_pos rfl
  | cons c front ih =>
      rw [List.cons_append, splitLast, ih]

end Split

/-! ## Lines -/

/-- A text with the given lines: each but the last ends in a line feed, with a carriage return
before it or without. -/
inductive HasLines : List (List Char) → List Char → Prop
  | last {line : List Char} (h : '\n' ∉ line) : HasLines [line] line
  | feed {line text : List Char} {lines : List (List Char)} (h : '\n' ∉ line)
    (rest : HasLines lines text) : HasLines (line :: lines) (line ++ '\n' :: text)
  | returnFeed {line text : List Char} {lines : List (List Char)} (h : '\n' ∉ line)
    (rest : HasLines lines text) : HasLines (line :: lines) (line ++ '\r' :: '\n' :: text)

/-- Every text has lines. -/
theorem exists_hasLines (text : List Char) : ∃ lines, HasLines lines text := by
  induction text with
  | nil => exact ⟨[[]], .last List.not_mem_nil⟩
  | cons c text ih =>
      obtain ⟨lines, hlines⟩ := ih
      by_cases hc : c = '\n'
      · subst hc
        exact ⟨[] :: lines, .feed List.not_mem_nil hlines⟩
      -- the first line begins one character earlier
      · have hcons : ∀ {line : List Char}, '\n' ∉ line → '\n' ∉ c :: line :=
          fun hline => List.not_mem_cons_of_ne_of_not_mem (Ne.symm hc) hline
        cases hlines with
        | last h => exact ⟨_, .last (hcons h)⟩
        | feed h rest => exact ⟨_, .feed (hcons h) rest⟩
        | returnFeed h rest => exact ⟨_, .returnFeed (hcons h) rest⟩

theorem fields_feed {line : List Char} (h : '\n' ∉ line) (text : List Char) :
    fields (· == '\n') (line ++ '\n' :: text) = line :: fields (· == '\n') text := by
  have hline : ∀ c ∈ line, (c == '\n') = false := fun c hc => by
    rw [beq_eq_false_iff_ne]
    rintro rfl
    exact h hc
  rw [fields_eq_splitOnP, List.splitOnP_append_cons line text rfl,
    List.splitOnP_eq_singleton hline, ← fields_eq_splitOnP]
  rfl

/-- The trimmed lines of a text are its lines that hold more than blanks. -/
theorem trimmedLines_of_hasLines {lines : List (List Char)} (h : HasLines lines text) :
    trimmedLines text = (lines.map trim).filter fun l => !l.isEmpty := by
  have hfields : (fields (· == '\n') text).map trim = lines.map trim := by
    induction h with
    | @last line h =>
        have hline : fields (· == '\n') (['\n'].intercalate [line]) = [line] :=
          fields_intercalate (List.cons_ne_nil _ _) (by simpa using h)
        rw [List.intercalate_singleton] at hline
        rw [hline]
    | feed h _ ih => rw [fields_feed h, List.map_cons, ih, List.map_cons]
    -- the carriage return is one more blank at the end of the line
    | @returnFeed line text lines h _ ih =>
        have hreturn : '\n' ∉ line ++ ['\r'] := by simp [h]
        rw [← List.singleton_append (x := '\r'), ← List.append_assoc, fields_feed hreturn,
          List.map_cons, ih, trim_append_blank (by decide), List.map_cons]
  rw [trimmedLines, hfields]

/-- Lines that list some contents in order: each line is one of those that are left out, or holds
the next of the contents between blanks. -/
inductive Lists {α : Type} (write : α → List Char) (LeftOut : List Char → Prop) :
    List α → List (List Char) → Prop
  | nil : Lists write LeftOut [] []
  | skip {contents : List α} {line : List Char} {lines : List (List Char)} (h : LeftOut line)
    (rest : Lists write LeftOut contents lines) : Lists write LeftOut contents (line :: lines)
  | item {contents : List α} {left right : List Char} {lines : List (List Char)} (a : α)
    (hleft : IsBlankText left) (hright : IsBlankText right)
    (rest : Lists write LeftOut contents lines) :
    Lists write LeftOut (a :: contents) ((left ++ write a ++ right) :: lines)

theorem Lists.plain {α : Type} {write : α → List Char} {LeftOut : List Char → Prop}
    {contents : List α} {lines : List (List Char)} (a : α)
    (h : Lists write LeftOut contents lines) :
    Lists write LeftOut (a :: contents) (write a :: lines) := by
  have hitem : Lists write LeftOut (a :: contents) (([] ++ write a ++ []) :: lines) :=
    .item a (by decide) (by decide) h
  rwa [List.nil_append, List.append_nil] at hitem

/-- What is read from the trimmed lines of a text is read from the contents that the lines list,
when nothing is read from the other lines. -/
theorem filterMap_trimmedLines {α β : Type} {write : α → List Char} {LeftOut : List Char → Prop}
    {read : List Char → Option β} {contents : List α} {lines : List (List Char)}
    (hlines : HasLines lines text) (h : Lists write LeftOut contents lines)
    (hskip : ∀ line, LeftOut line → IsBlankText line ∨ read (trim line) = none)
    (hcontents : ∀ a ∈ contents, ¬ IsBlankText (write a)) :
    (trimmedLines text).filterMap read = contents.filterMap fun a => read (trim (write a)) := by
  rw [trimmedLines_of_hasLines hlines]
  clear hlines
  induction h with
  | nil => rfl
  | @skip contents line lines hline _ ih =>
      rw [← ih hcontents, List.map_cons, List.filter_cons]
      rcases hskip line hline with hblank | hread
      · rw [trim_eq_nil_iff.2 hblank]
        rfl
      · split
        · rw [List.filterMap_cons_none hread]
        · rfl
  | @item contents left right lines a hleft hright _ ih =>
      obtain ⟨ha, hcontents⟩ := List.forall_mem_cons.1 hcontents
      have hne : (trim (write a)).isEmpty = false := by
        rw [List.isEmpty_eq_false_iff]
        exact fun hnil => ha (trim_eq_nil_iff.1 hnil)
      rw [List.map_cons, trim_between hleft hright, List.filter_cons, hne, Bool.not_false,
        if_pos rfl, List.filterMap_cons, List.filterMap_cons, ih hcontents]

end RespClient.Text
