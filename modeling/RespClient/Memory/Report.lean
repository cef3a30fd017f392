import RespClient.Decode.Scalar
import RespClient.Number.Notation

/-!
# Memory reports

A server reports its use of memory as named values: as an array or map of names and
values, or as a text of `name:value` lines whose names are older spellings. A report
keeps fourteen counters and three ratios. Values are recorded in order, so the last
one of a name counts, and a value that does not read as a number counts as zero.
-/

namespace RespClient

/-- The counters of a memory report. -/
inductive MemoryCounter where
  | peakAllocated
  | totalAllocated
  | startupAllocated
  | replicationBacklog
  | clientsSlaves
  | clientsNormal
  | aofBuffer
  | luaCaches
  | overheadTotal
  | keysCount
  | keysBytesPerKey
  | datasetBytes
  | allocatorAllocated
  | allocatorResident
  deriving Repr, DecidableEq

/-- The ratios of a memory report. -/
inductive MemoryRatio where
  | datasetPercentage
  | peakPercentage
  | fragmentation
  deriving Repr, DecidableEq

/-- The counter that a name stands for. -/
def MemoryCounter.ofName? (name : String) : Option MemoryCounter :=
  match name with
  | "peak.allocated" => some .peakAllocated
  | "total.allocated" => some .totalAllocated
  | "startup.allocated" => some .startupAllocated
  | "replication.backlog" => some .replicationBacklog
  | "clients.slaves" => some .clientsSlaves
  | "clients.normal" => some .clientsNormal
  | "aof.buffer" => some .aofBuffer
  | "lua.caches" => some .luaCaches
  | "overhead.total" => some .overheadTotal
  | "keys.count" => some .keysCount
  | "keys.bytes-per-key" => some .keysBytesPerKey
  | "dataset.bytes" => some .datasetBytes
  | "allocator.allocated" => some .allocatorAllocated
  | "allocator.resident" => some .allocatorResident
  | _ => none

/-- The ratio that a name stands for. -/
def MemoryRatio.ofName? (name : String) : Option MemoryRatio :=
  match name with
  | "dataset.percentage" => some .datasetPercentage
  | "peak.percentage" => some .peakPercentage
  | "fragmentation" => some .fragmentation
  | _ => none

/-- A report: the value of every counter and every ratio. -/
@[ext] structure MemoryReport where
  counter : MemoryCounter → Nat64Value := fun _ => .zero _
  ratio : MemoryRatio → Double := fun _ => .zero

/-- A name with the text of its value. -/
structure MemoryEntry where
  name : String
  raw : List Char
  deriving Repr, DecidableEq

namespace MemoryEntry

/-- The name in reports for a name in text lines. -/
def reportName (name : String) : String :=
  match name with
  | "used_memory" => "total.allocated"
  | "used_memory_peak" => "peak.allocated"
  | "used_memory_peak_perc" => "peak.percentage"
  | "used_memory_startup" => "startup.allocated"
  | "used_memory_overhead" => "overhead.total"
  | "used_memory_dataset" => "dataset.bytes"
  | "used_memory_dataset_perc" => "dataset.percentage"
  | "used_memory_lua" => "lua.caches"
  | "used_memory_vm_eval" => "lua.caches"
  | "mem_replication_backlog" => "replication.backlog"
  | "mem_clients_slaves" => "clients.slaves"
  | "mem_clients_normal" => "clients.normal"
  | "mem_aof_buffer" => "aof.buffer"
  | "mem_fragmentation_ratio" => "fragmentation"
  | "allocator_allocated" => "allocator.allocated"
  | "allocator_resident" => "allocator.resident"
  | name => name

/-- The entry of a trimmed line: comments and lines without a colon have none. -/
def ofLine? (line : List Char) : Option MemoryEntry :=
  if line.head? = some '#' then none
  else
    (Text.splitFirst ':' line).map fun parts =>
      ⟨reportName (String.ofList parts.1), parts.2⟩

/-- The text of a value: integers and doubles are written out, strings taken as they
are; other replies are no value. -/
def rawOfReply? (value : Reply) : Option (List Char) :=
  match value with
  | .integer n => some (Decimal.ofInt n.val)
  | .double x => some (Layout.plain.write ['N', 'a', 'N'] ['i', 'n', 'f'] x)
  | value => value.text?.map Utf8.decodeLossy

/-- The entry of a name and a value. -/
def ofReplies? (parts : Reply × Reply) : Option MemoryEntry := do
  let name ← parts.1.text?
  let name ← Utf8.decode? name
  let raw ← rawOfReply? parts.2
  some ⟨String.ofList name, raw⟩

/-- The counter that the text of a value gives. -/
def counterValue (raw : List Char) : Nat64Value :=
  (Decimal.read? .nat64 (Text.trim raw)).getD (.zero _)

/-- The ratio that the text of a value gives; percent signs at its end do not
count. -/
def ratioValue (raw : List Char) : Double :=
  (Literal.read? .double (Text.dropEndWhile (· == '%') (Text.trim raw))).getD .zero

end MemoryEntry

namespace MemoryReport

/-- Records one entry. Names that stand for nothing are skipped. -/
def record (report : MemoryReport) (entry : MemoryEntry) : MemoryReport :=
  match MemoryRatio.ofName? entry.name with
  | some r =>
    { report with
      ratio := fun other =>
        if other = r then MemoryEntry.ratioValue entry.raw else report.ratio other }
  | none =>
    match MemoryCounter.ofName? entry.name with
    | some c =>
      { report with
        counter := fun other =>
          if other = c then MemoryEntry.counterValue entry.raw else report.counter other }
    | none => report

/-- The report of a list of entries. -/
def ofEntries (entries : List MemoryEntry) : MemoryReport := entries.foldl record {}

/-- The report of a text. -/
def ofText (text : List Char) : MemoryReport :=
  ofEntries ((Text.trimmedLines text).filterMap MemoryEntry.ofLine?)

end MemoryReport

/-- A report is an array or, under the third revision, a map of names and values, or a
text, whatever its octets. -/
def Decoder.memoryReport (revision : Revision) : Decoder MemoryReport := ofReply fun reply =>
  match reply with
  | .array items =>
    .ok (.ofEntries ((adjacentPairs items).filterMap MemoryEntry.ofReplies?))
  | .map entries =>
    if revision.isThird then .ok (.ofEntries (entries.filterMap MemoryEntry.ofReplies?))
    else .error (.unexpected .string reply)
  | reply => do
    let text ← readText revision reply
    .ok (.ofText (Utf8.decodeLossy text))

end RespClient
