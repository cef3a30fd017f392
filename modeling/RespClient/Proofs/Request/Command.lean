import RespClient.Command
import RespClient.Proofs.Request.Framing

/-!
# Commands are framed whole or not at all

A command with arguments is framed when each argument wrote as many elements as it declared, and the
framed request is then the name and all elements in order. Otherwise the first argument that did not
is the error of every way of framing, and the buffer stays as it was (`framed_whole_or_not_at_all`).
-/

set_option autoImplicit false

namespace RespClient

namespace Command

theorem foldl_push (command : Command) (args : List Argument) :
    args.foldl push command = ⟨command.name, command.parts ++ args.map Argument.part⟩ := by
  induction args generalizing command with
  | nil => rw [List.foldl_nil, List.map_nil, List.append_nil]
  | cons a args ih =>
      rw [List.foldl_cons, ih, push, List.map_cons, List.append_assoc, List.singleton_append]

theorem ofArgs_eq (name : Bytes) (args : List Argument) :
    ofArgs name args = ⟨name, args.map Argument.part⟩ :=
  foldl_push ⟨name, []⟩ args

/-! ## Parts -/

variable {name : Bytes} {parts : List Part}

/-- Parts that wrote what they declared are collected in order. -/
theorem collect_of_match (h : ∀ part ∈ parts, part.bulks.length = part.declared) :
    ∀ index, collect name index parts = .ok (parts.flatMap Part.bulks) := by
  induction parts with
  | nil => intro index; rfl
  | cons part parts ih =>
      intro index
      obtain ⟨hpart, hparts⟩ := List.forall_mem_cons.1 h
      rw [collect, if_pos hpart, ih hparts]
      rfl

/-- The first part that wrote another number of elements ends the collection, with its index. -/
theorem collect_of_mismatch (name : Bytes) (part : Part) (after : List Part)
    (h : ∀ p ∈ parts, p.bulks.length = p.declared)
    (hpart : part.bulks.length ≠ part.declared) :
    ∀ index, collect name index (parts ++ part :: after) =
      .error (.malformed (.argumentCount (index + parts.length) (Utf8.lossyString name)
        part.declared part.bulks.length)) := by
  induction parts with
  | nil =>
      intro index
      rw [List.nil_append, collect, if_neg hpart]
      rfl
  | cons p parts ih =>
      intro index
      obtain ⟨hp, hparts⟩ := List.forall_mem_cons.1 h
      rw [List.cons_append, collect, if_pos hp, ih hparts, List.length_cons]
      have hindex : index + 1 + parts.length = index + (parts.length + 1) := by omega
      rw [hindex]
      rfl

/-- One part that wrote another number of elements ends the collection, there or before. -/
theorem collect_of_mem_mismatch {part : Part} (hmem : part ∈ parts)
    (hpart : part.bulks.length ≠ part.declared) :
    ∀ index, ∃ place declared written, written ≠ declared ∧ collect name index parts =
      .error (.malformed (.argumentCount place (Utf8.lossyString name) declared written)) := by
  induction parts with
  | nil => cases hmem
  | cons p parts ih =>
      intro index
      by_cases hp : p.bulks.length = p.declared
      · have hrest : part ∈ parts := by
          refine (List.mem_cons.1 hmem).resolve_left ?_
          rintro rfl
          exact hpart hp
        obtain ⟨place, declared, written, hne, hcollect⟩ := ih hrest (index + 1)
        refine ⟨place, declared, written, hne, ?_⟩
        rw [collect, if_pos hp, hcollect]
        rfl
      · exact ⟨index, p.declared, p.bulks.length, hp, by rw [collect, if_neg hp]⟩

/-- Parts that wrote what they declared wrote as many elements as they declared together. -/
theorem foldl_declared (h : ∀ part ∈ parts, part.bulks.length = part.declared) :
    ∀ total, parts.foldl (fun total part => total + part.declared) total =
      total + (parts.flatMap Part.bulks).length := by
  induction parts with
  | nil => intro total; rfl
  | cons part parts ih =>
      intro total
      obtain ⟨hpart, hparts⟩ := List.forall_mem_cons.1 h
      rw [List.foldl_cons, ih hparts, List.flatMap_cons, List.length_append, hpart, Nat.add_assoc]

/-! ## The ways of framing -/

section Outcome

variable {command : Command} {request : Request} {e : Error}

theorem encode_of_ok (h : command.toRequest = .ok request) :
    command.encode = .ok request.encode := by
  rw [encode, h]
  rfl

theorem encode_of_error (h : command.toRequest = .error e) : command.encode = .error e := by
  rw [encode, h]
  rfl

theorem appendTo_of_ok (h : command.toRequest = .ok request) (buffer : Bytes) :
    command.appendTo buffer = (.ok (), buffer ++ request.encode) := by
  have hencode : request.appendTo buffer = buffer ++ request.encode := by
    rw [Request.encode_eq, Request.appendTo, Request.appendArgs_eq]
  simp only [appendTo, h, hencode]

theorem appendTo_of_error (h : command.toRequest = .error e) (buffer : Bytes) :
    command.appendTo buffer = (.error e, buffer) := by
  simp only [appendTo, h]

end Outcome

/-- Every way of framing gives the request, and appends it to any buffer. -/
structure FramedAs (name : Bytes) (args : List Argument) (request : Request) : Prop where
  toRequest_eq : (ofArgs name args).toRequest = .ok request
  encode_eq : (ofArgs name args).encode = .ok request.encode
  appendTo_eq : ∀ buffer, (ofArgs name args).appendTo buffer = (.ok (), buffer ++ request.encode)
  appendArgs_eq : ∀ buffer, appendArgs buffer name args = (.ok (), buffer ++ request.encode)

/-- Every way of framing gives the error, and leaves any buffer as it was. -/
structure RefusedWith (name : Bytes) (args : List Argument) (e : Error) : Prop where
  toRequest_eq : (ofArgs name args).toRequest = .error e
  encode_eq : (ofArgs name args).encode = .error e
  appendTo_eq : ∀ buffer, (ofArgs name args).appendTo buffer = (.error e, buffer)
  appendArgs_eq : ∀ buffer, appendArgs buffer name args = (.error e, buffer)

variable {args : List Argument}

theorem framedAs_of_toRequest {request : Request}
    (h : (ofArgs name args).toRequest = .ok request) : FramedAs name args request :=
  ⟨h, encode_of_ok h, appendTo_of_ok h, appendTo_of_ok h⟩

theorem refusedWith_of_toRequest {e : Error} (h : (ofArgs name args).toRequest = .error e) :
    RefusedWith name args e :=
  ⟨h, encode_of_error h, appendTo_of_error h, appendTo_of_error h⟩

/-- A command with an argument that wrote another number of elements is refused. -/
theorem refusedWith_of_mem {a : Argument} (ha : a ∈ args) (h : a.bulks.length ≠ a.count) :
    ∃ index declared written, written ≠ declared ∧ RefusedWith name args
      (.malformed (.argumentCount index (Utf8.lossyString name) declared written)) := by
  have hmem : a.part ∈ args.map Argument.part := List.mem_map_of_mem ha
  obtain ⟨index, declared, written, hne, hcollect⟩ := collect_of_mem_mismatch hmem h 0
  refine ⟨index, declared, written, hne, refusedWith_of_toRequest ?_⟩
  rw [toRequest, ofArgs_eq, hcollect]
  rfl

/-- A list with an element that fails a test splits at the first such element. -/
theorem exists_first_mismatch (h : ¬ ∀ a ∈ args, a.bulks.length = a.count) :
    ∃ before a after, args = before ++ a :: after ∧
      (∀ b ∈ before, b.bulks.length = b.count) ∧ a.bulks.length ≠ a.count := by
  -- the first argument found is the one with no other before it
  cases hfind : args.find? fun a => a.bulks.length != a.count with
  | none =>
      refine absurd (fun a ha => ?_) h
      have hnot := List.find?_eq_none.1 hfind a ha
      simpa using hnot
  | some a =>
      obtain ⟨ha, before, after, hsplit, hbefore⟩ := List.find?_eq_some_iff_append.1 hfind
      refine ⟨before, a, after, hsplit, fun b hb => ?_, by simpa using ha⟩
      simpa using hbefore b hb

/-- A command is framed whole or not at all. When every argument wrote as many elements as it
declared, the request is the name and all elements in order, and its header counts the declared
elements. Otherwise the error names the first argument that wrote another number, and the number of
arguments before it. -/
theorem framed_whole_or_not_at_all (name : Bytes) (args : List Argument) :
    ((∀ a ∈ args, a.bulks.length = a.count) →
      FramedAs name args ⟨name :: args.flatMap Argument.bulks⟩ ∧
      (ofArgs name args).encode = .ok (Frame.header .array (ofArgs name args).argCount ++
        (name :: args.flatMap Argument.bulks).flatMap (Frame.blob .string))) ∧
    (¬ (∀ a ∈ args, a.bulks.length = a.count) →
      ∃ before a after, args = before ++ a :: after ∧
        (∀ b ∈ before, b.bulks.length = b.count) ∧ a.bulks.length ≠ a.count ∧
        RefusedWith name args (.malformed (.argumentCount before.length (Utf8.lossyString name)
          a.count a.bulks.length))) := by
  have hbulks : (args.map Argument.part).flatMap Part.bulks = args.flatMap Argument.bulks := by
    rw [List.flatMap_map]
    rfl
  constructor
  · intro h
    have hparts : ∀ part ∈ args.map Argument.part, part.bulks.length = part.declared :=
      List.forall_mem_map.2 h
    have hframed : FramedAs name args ⟨name :: args.flatMap Argument.bulks⟩ := by
      refine framedAs_of_toRequest ?_
      rw [toRequest, ofArgs_eq, collect_of_match hparts, hbulks]
      rfl
    have hcount : (ofArgs name args).argCount = (name :: args.flatMap Argument.bulks).length := by
      rw [argCount, ofArgs_eq, foldl_declared hparts, hbulks, List.length_cons, Nat.add_comm]
    refine ⟨hframed, ?_⟩
    rw [hframed.encode_eq, hcount, Request.encode, Request.appendTo, Request.appendArgs_eq,
      Reply.encode_bulkArray, List.nil_append]
  · intro h
    obtain ⟨before, a, after, hsplit, hbefore, ha⟩ := exists_first_mismatch h
    refine ⟨before, a, after, hsplit, hbefore, ha, refusedWith_of_toRequest ?_⟩
    have hparts : ∀ part ∈ before.map Argument.part, part.bulks.length = part.declared :=
      List.forall_mem_map.2 hbefore
    have hcollect := collect_of_mismatch name a.part (after.map Argument.part) hparts ha 0
    rw [toRequest, ofArgs_eq, hsplit, List.map_append, List.map_cons, hcollect, List.length_map,
      Nat.zero_add]
    rfl

/-- One element too few and one too many do not make up for each other. -/
theorem framed_whole_or_not_at_all_instances :
    let whole : List Argument := [.octets [107], .custom 2 [[], [13, 10]]]
    let broken : List Argument := [.octets [107], .custom 2 [[]], .custom 0 [[49]]]
    FramedAs [71] whole ⟨[[71], [107], [], [13, 10]]⟩ ∧
      ∃ before a after, broken = before ++ a :: after ∧
        (∀ b ∈ before, b.bulks.length = b.count) ∧ a.bulks.length ≠ a.count ∧
        RefusedWith [71] broken (.malformed (.argumentCount before.length
          (Utf8.lossyString [71]) a.count a.bulks.length)) := by
  intro whole broken
  exact ⟨((framed_whole_or_not_at_all [71] whole).1 (by decide)).1,
    (framed_whole_or_not_at_all [71] broken).2 (by decide)⟩

end Command

end RespClient
