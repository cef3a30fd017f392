import RespClient.Proofs.Request.Command

/-!
# Arguments write what they announce

An argument is written element by element behind the elements that are already there
(`Argument.writeTo`), which adds `Argument.bulks` to them (`Argument.writeTo_eq`). It is honest when
it adds as many elements as it announces. A built-in argument is honest when the items of each
collection in it announce equal numbers, and a collection of honest items is honest exactly when
its first item stands for the others in the total (`Argument.announces_what_it_writes`).
-/

set_option autoImplicit false

namespace RespClient

namespace Argument

/-! ## Writing behind other elements -/

/-- Appends what two columns hold in a row; a column that is too short holds nothing. -/
def pushRow (left right : List String) (out : List Bytes) (row : Nat) : List Bytes :=
  out ++ left[row]?.toList.map Utf8.ofString ++ right[row]?.toList.map Utf8.ofString

/-- Appends two columns row by row. -/
def pushRows (left right : List String) (out : List Bytes) : List Bytes :=
  (List.range (max left.length right.length)).foldl (pushRow left right) out

/-- Appends names and values, each name before its value. -/
def pushFields (fields : List (String × String)) (out : List Bytes) : List Bytes :=
  fields.foldl (fun out field => out ++ [Utf8.ofString field.1] ++ [Utf8.ofString field.2]) out

mutual

/-- Appends the elements of an argument to the elements that are already there: those of arguments
inside it, of fields and of rows one after the other, and all others at once. -/
def writeTo (out : List Bytes) : Argument → List Bytes
  | .present a => writeTo out a
  | .tuple fields => writeAllTo out fields
  | .list items => writeAllTo out items
  | .map entries => writeEntriesTo out entries
  | .streamEntry entry => pushFields entry.fields (out ++ [Utf8.encode entry.id.text])
  | .searchDocument document =>
    pushRows document.fields document.values (out ++ [Utf8.ofString document.id])
  | a => out ++ a.bulks

/-- Appends the elements of some arguments, one argument after the other. -/
def writeAllTo (out : List Bytes) : List Argument → List Bytes
  | [] => out
  | a :: as => writeAllTo (writeTo out a) as

/-- Appends the elements of some entries, each key before its value. -/
def writeEntriesTo (out : List Bytes) : List (Argument × Argument) → List Bytes
  | [] => out
  | (key, value) :: entries => writeEntriesTo (writeTo (writeTo out key) value) entries

end

theorem pushFields_eq (fields : List (String × String)) (out : List Bytes) :
    pushFields fields out = out ++ ofFields fields := by
  induction fields generalizing out with
  | nil => exact (List.append_nil out).symm
  | cons field fields ih =>
      rw [pushFields, List.foldl_cons, ← pushFields, ih, List.append_assoc, List.append_assoc]
      rfl

/-- The rows after the first are the rows of the tails. -/
theorem pushRow_succ (left right : List String) (out : List Bytes) (row : Nat) :
    pushRow left right out (row + 1) = pushRow left.tail right.tail out row := by
  rw [pushRow, pushRow, List.getElem?_tail, List.getElem?_tail]

theorem interleave_nil_left (right : List String) : interleave [] right = right := by
  cases right <;> rfl

theorem interleave_nil_right (left : List String) : interleave left [] = left := by
  cases left <;> rfl

theorem interleave_eq (left right : List String) :
    interleave left right =
      left[0]?.toList ++ (right[0]?.toList ++ interleave left.tail right.tail) := by
  cases left with
  | nil =>
      rw [List.tail_nil, interleave_nil_left, interleave_nil_left]
      cases right <;> rfl
  | cons a as =>
      cases right with
      | nil =>
          rw [List.tail_nil, interleave_nil_right, interleave_nil_right]
          rfl
      | cons b bs => rfl

/-- Any number of rows will do that covers both columns. -/
theorem foldl_pushRow (n : Nat) (left right : List String) (out : List Bytes)
    (hleft : left.length ≤ n) (hright : right.length ≤ n) :
    (List.range n).foldl (pushRow left right) out =
      out ++ (interleave left right).map Utf8.ofString := by
  induction n generalizing left right out with
  | zero =>
      obtain rfl := List.eq_nil_of_length_eq_zero (Nat.le_zero.1 hleft)
      obtain rfl := List.eq_nil_of_length_eq_zero (Nat.le_zero.1 hright)
      exact (List.append_nil out).symm
  | succ n ih =>
      have hrows : (fun out row => pushRow left right out (Nat.succ row)) =
          pushRow left.tail right.tail :=
        funext fun out => funext (pushRow_succ left right out)
      have hleft' : left.tail.length ≤ n := by
        rw [List.length_tail]
        omega
      have hright' : right.tail.length ≤ n := by
        rw [List.length_tail]
        omega
      rw [List.range_succ_eq_map, List.foldl_cons, List.foldl_map, hrows, ih _ _ _ hleft' hright',
        interleave_eq left right, pushRow, List.map_append, List.map_append]
      simp only [List.append_assoc]

/-- Row by row, two columns are written in turn, and then the rest of the longer one. -/
theorem pushRows_eq (left right : List String) (out : List Bytes) :
    pushRows left right out = out ++ (interleave left right).map Utf8.ofString :=
  foldl_pushRow _ left right out (Nat.le_max_left _ _) (Nat.le_max_right _ _)

mutual

/-- What is there stays, and the elements of the argument follow. -/
theorem writeTo_eq (out : List Bytes) : ∀ a : Argument, writeTo out a = out ++ bulks a
  | .present a => writeTo_eq out a
  | .tuple fields => writeAllTo_eq out fields
  | .list items => writeAllTo_eq out items
  | .map entries => writeEntriesTo_eq out entries
  | .streamEntry entry => by
      rw [writeTo, pushFields_eq, List.append_assoc]
      rfl
  | .searchDocument document => by
      rw [writeTo, pushRows_eq, List.append_assoc]
      rfl
  | .octets _ | .text _ | .integer _ _ | .double _ | .single _ | .missing | .geoPosition _
  | .score _ | .scoredMember _ | .streamId _ | .json _ | .status _ | .memoryReport _
  | .custom _ _ => rfl

theorem writeAllTo_eq (out : List Bytes) :
    ∀ items : List Argument, writeAllTo out items = out ++ bulksOfAll items
  | [] => (List.append_nil out).symm
  | a :: as => by
      rw [writeAllTo, writeTo_eq out a, writeAllTo_eq _ as, List.append_assoc]
      rfl

theorem writeEntriesTo_eq (out : List Bytes) :
    ∀ entries : List (Argument × Argument),
      writeEntriesTo out entries = out ++ bulksOfEntries entries
  | [] => (List.append_nil out).symm
  | (key, value) :: entries => by
      rw [writeEntriesTo, writeTo_eq out key, writeTo_eq _ value, writeEntriesTo_eq _ entries,
        List.append_assoc, List.append_assoc]
      rfl

end

/-! ## Honest arguments -/

/-- Does an argument add as many elements as it announces to any elements, and keep these? -/
def Honest (a : Argument) : Prop :=
  ∀ out, ∃ added, a.writeTo out = out ++ added ∧ added.length = a.count

theorem honest_iff {a : Argument} : a.Honest ↔ a.bulks.length = a.count := by
  constructor
  · intro h
    obtain ⟨added, hwrite, hlength⟩ := h []
    rw [writeTo_eq, List.nil_append, List.nil_append] at hwrite
    rw [hwrite, hlength]
  · intro h out
    exact ⟨a.bulks, writeTo_eq out a, h⟩

/-- Is an argument built in and without other arguments in it? -/
def isSimple : Argument → Bool
  | .present _ | .tuple _ | .list _ | .map _ | .custom _ _ => false
  | _ => true

theorem length_ofFields (fields : List (String × String)) :
    (ofFields fields).length = 2 * fields.length := by
  induction fields with
  | nil => rfl
  | cons field fields ih =>
      rw [ofFields, List.flatMap_cons, List.length_append, ← ofFields, ih, List.length_cons]
      simp only [List.length_cons, List.length_nil]
      omega

theorem length_interleave (left right : List String) :
    (interleave left right).length = left.length + right.length := by
  induction left generalizing right with
  | nil => rw [interleave_nil_left, List.length_nil, Nat.zero_add]
  | cons a as ih =>
      cases right with
      | nil => rfl
      | cons b bs =>
          rw [interleave, List.length_cons, List.length_cons, ih, List.length_cons,
            List.length_cons]
          omega

theorem honest_of_isSimple {a : Argument} (h : a.isSimple = true) : a.Honest := by
  rw [honest_iff]
  cases a with
  | streamEntry entry =>
      rw [bulks, List.length_cons, length_ofFields, count, Nat.add_comm]
  | searchDocument document =>
      rw [bulks, List.length_cons, List.length_map, length_interleave, count]
      omega
  | present | tuple | list | map | custom => cases h
  | _ => rfl

/-! ## Collections -/

/-- The number of elements that the key and the value of an entry announce. -/
def entryCount (entry : Argument × Argument) : Nat := entry.1.count + entry.2.count

section Collections

variable {items : List Argument} {entries : List (Argument × Argument)}

theorem countAll_eq (items : List Argument) : countAll items = (items.map count).sum := by
  induction items with
  | nil => rfl
  | cons a as ih => rw [countAll, ih, List.map_cons, List.sum_cons]

theorem length_bulksOfAll (h : ∀ a ∈ items, a.Honest) :
    (bulksOfAll items).length = (items.map count).sum := by
  induction items with
  | nil => rfl
  | cons a as ih =>
      obtain ⟨ha, has⟩ := List.forall_mem_cons.1 h
      rw [bulksOfAll, List.length_append, honest_iff.1 ha, ih has, List.map_cons, List.sum_cons]

theorem length_bulksOfEntries (hkeys : ∀ e ∈ entries, e.1.Honest)
    (hvalues : ∀ e ∈ entries, e.2.Honest) :
    (bulksOfEntries entries).length = (entries.map entryCount).sum := by
  induction entries with
  | nil => rfl
  | cons entry entries ih =>
      obtain ⟨hkey, hkeys⟩ := List.forall_mem_cons.1 hkeys
      obtain ⟨hvalue, hvalues⟩ := List.forall_mem_cons.1 hvalues
      rw [bulksOfEntries, List.length_append, List.length_append, honest_iff.1 hkey,
        honest_iff.1 hvalue, ih hkeys hvalues, List.map_cons, List.sum_cons, entryCount,
        Nat.add_assoc]

theorem honest_tuple (h : ∀ a ∈ items, a.Honest) : (Argument.tuple items).Honest := by
  rw [honest_iff, bulks, length_bulksOfAll h, count, countAll_eq]

/-- The first item of a list stands for the others exactly when this gives the total. -/
theorem honest_list_iff {first : Argument} {rest : List Argument}
    (h : ∀ a ∈ first :: rest, a.Honest) :
    (Argument.list (first :: rest)).Honest ↔
      ((first :: rest).map count).sum = (first :: rest).length * first.count := by
  rw [honest_iff, bulks, length_bulksOfAll h, count, List.length_cons, Nat.mul_comm]

/-- The first entry of a map stands for the others exactly when this gives the total. -/
theorem honest_map_iff {first : Argument × Argument} {rest : List (Argument × Argument)}
    (hkeys : ∀ e ∈ first :: rest, e.1.Honest) (hvalues : ∀ e ∈ first :: rest, e.2.Honest) :
    (Argument.map (first :: rest)).Honest ↔
      ((first :: rest).map entryCount).sum = (first :: rest).length * entryCount first := by
  rw [honest_iff, bulks, length_bulksOfEntries hkeys hvalues, count, List.length_cons,
    Nat.mul_comm, entryCount]

end Collections

/-- A list of numbers that are all equal has the total that its first number gives. -/
theorem sum_eq_of_equal {α : Type} {f : α → Nat} {first : α} {rest : List α}
    (h : ∀ a ∈ first :: rest, ∀ b ∈ first :: rest, f a = f b) :
    ((first :: rest).map f).sum = (first :: rest).length * f first := by
  have hall : ∀ n ∈ (first :: rest).map f, n = f first :=
    List.forall_mem_map.2 fun a ha => h a ha first List.mem_cons_self
  rw [List.eq_replicate_of_mem hall, List.sum_replicate_nat, List.length_map]

/-- A built-in argument in which the items of each collection announce equal numbers, and likewise
the entries of each map, key and value together. -/
inductive Uniform : Argument → Prop where
  | simple {a : Argument} (h : a.isSimple = true) : Uniform a
  | present {a : Argument} (h : Uniform a) : Uniform (.present a)
  | tuple {fields : List Argument} (h : ∀ a ∈ fields, Uniform a) : Uniform (.tuple fields)
  | list {items : List Argument} (h : ∀ a ∈ items, Uniform a)
      (hequal : ∀ a ∈ items, ∀ b ∈ items, a.count = b.count) : Uniform (.list items)
  | map {entries : List (Argument × Argument)} (hkeys : ∀ e ∈ entries, Uniform e.1)
      (hvalues : ∀ e ∈ entries, Uniform e.2)
      (hequal : ∀ e ∈ entries, ∀ e' ∈ entries, entryCount e = entryCount e') :
      Uniform (.map entries)

theorem Uniform.honest {a : Argument} (h : a.Uniform) : a.Honest := by
  induction h with
  | simple h => exact honest_of_isSimple h
  | present _ ih => exact ih
  | tuple _ ih => exact honest_tuple ih
  | @list items _ hequal ih =>
      -- an empty collection has no first item, and announces nothing
      cases items with
      | nil => exact honest_iff.2 rfl
      | cons first rest => exact (honest_list_iff ih).2 (sum_eq_of_equal hequal)
  | @map entries _ _ hequal ihkeys ihvalues =>
      cases entries with
      | nil => exact honest_iff.2 rfl
      | cons first rest => exact (honest_map_iff ihkeys ihvalues).2 (sum_eq_of_equal hequal)

/-- Arguments write what they announce. A built-in argument adds as many elements as it announces to
any elements, and keeps these, when the items of each collection in it announce equal numbers. A
list or a map of honest items is honest exactly when its first item, taken as often as there are
items, announces their total; and every command with an argument that is not honest is refused. -/
theorem announces_what_it_writes :
    (∀ a : Argument, a.Uniform → a.Honest) ∧
    (∀ (first : Argument) (rest : List Argument), (∀ a ∈ first :: rest, a.Honest) →
      ((Argument.list (first :: rest)).Honest ↔
        ((first :: rest).map count).sum = (first :: rest).length * first.count)) ∧
    (∀ (first : Argument × Argument) (rest : List (Argument × Argument)),
      (∀ e ∈ first :: rest, e.1.Honest) → (∀ e ∈ first :: rest, e.2.Honest) →
      ((Argument.map (first :: rest)).Honest ↔
        ((first :: rest).map entryCount).sum = (first :: rest).length * entryCount first)) ∧
    (∀ (a : Argument) (name : Bytes) (args : List Argument), ¬ a.Honest → a ∈ args →
      ∃ index declared written, written ≠ declared ∧ Command.RefusedWith name args
        (.malformed (.argumentCount index (Utf8.lossyString name) declared written))) := by
  refine ⟨fun _ h => h.honest, fun _ _ h => honest_list_iff h,
    fun _ _ hkeys hvalues => honest_map_iff hkeys hvalues, fun a name args hdishonest ha => ?_⟩
  have hlength : a.bulks.length ≠ a.count := fun heq => hdishonest (honest_iff.2 heq)
  exact Command.refusedWith_of_mem ha hlength

/-- Documents of unequal columns in a list of pairs; a list whose first item announces one element
while the others announce none and two; a map with entries of two and of four elements; and a
command that is refused for a list with an item left out. -/
theorem announces_what_it_writes_instances :
    let document : Argument := .searchDocument ⟨"d", ["a", "b"], ["1"]⟩
    let pairs : Argument := .list [.tuple [document, .missing], .tuple [.missing, document]]
    let uneven : Argument := .list [.present (.text "a"), .missing, .tuple [.text "b", .text "c"]]
    let mixed : Argument :=
      .map [(.text "a", .text "b"), (.text "c", .list [.text "d", .text "e", .text "f"])]
    let gap : Argument := .list [.text "a", .missing]
    pairs.Honest ∧ uneven.Honest ∧ ¬ mixed.Honest ∧
      ∃ index declared written, written ≠ declared ∧
        Command.RefusedWith [71] [.octets [107], gap]
          (.malformed (.argumentCount index (Utf8.lossyString [71]) declared written)) := by
  intro document pairs uneven mixed gap
  have hdocument : document.Uniform := .simple rfl
  have hpairs : pairs.Uniform := by
    refine .list ?_ (by decide)
    simp only [List.forall_mem_cons]
    exact ⟨.tuple (by simpa using ⟨hdocument, .simple rfl⟩),
      .tuple (by simpa using ⟨.simple rfl, hdocument⟩), nofun⟩
  -- the first item announces one element, so two for both, and one is written
  have hgap : ¬ gap.Honest := mt honest_iff.1 (by decide)
  refine ⟨announces_what_it_writes.1 _ hpairs, ?_, ?_,
    announces_what_it_writes.2.2.2 gap _ _ hgap (.tail _ (.head _))⟩
  · refine (announces_what_it_writes.2.1 _ _ ?_).2 (by decide)
    simp only [List.forall_mem_cons, honest_iff]
    decide
  · refine mt (announces_what_it_writes.2.2.1 _ _ ?_ ?_).1 (by decide)
    · simp only [List.forall_mem_cons, honest_iff]
      decide
    · simp only [List.forall_mem_cons, honest_iff]
      decide

end Argument

end RespClient
