import RpiHealth.Collector.Collector

/-! The reader of a command's output: it keeps a bounded prefix and reads on to the end. -/
namespace RpiHealth

def MAX_COMMAND_OUTPUT_BYTES : Nat := 4096
def READ_BUFFER_BYTES : Nat := 512

/-- What one read leaves at the front of the buffer; nothing at the end of the file. -/
structure Chunk where
  bytes : List UInt8
  fits : bytes.length ≤ READ_BUFFER_BYTES
  deriving DecidableEq

def Chunk.endOfFile : Chunk := ⟨[], Nat.zero_le _⟩

structure LimitedOutput where
  output : List UInt8 := []
  tooLarge : Bool := false
  deriving DecidableEq, Repr

def LimitedOutput.extend (state : LimitedOutput) (chunk : Chunk) : LimitedOutput :=
  let count := chunk.bytes.length
  let remaining := MAX_COMMAND_OUTPUT_BYTES - state.output.length
  { output := state.output ++ chunk.bytes.take (min count remaining)
    tooLarge := state.tooLarge || decide (remaining < count) }

/-- The loop, and the reads that it leaves. Where the list ends, so does the file. -/
def readLoop (state : LimitedOutput) :
    List (Except IoError Chunk) → Except CommandFailure LimitedOutput × List (Except IoError Chunk)
  | [] => (.ok state, [])
  | .error _ :: later => (.error .outputRead, later)
  | .ok chunk :: later =>
    if chunk.bytes.length = 0 then (.ok state, later) else readLoop (state.extend chunk) later

def readLimitedOutput (reads : List (Except IoError Chunk)) :
    Except CommandFailure (List UInt8) × List (Except IoError Chunk) :=
  match readLoop {} reads with
  | (.error failure, later) => (.error failure, later)
  | (.ok state, later) =>
    (if state.tooLarge then .error .outputTooLarge else .ok state.output, later)

/-- The state after what was read so far, however it was split. -/
structure LimitedOutput.Follows (state : LimitedOutput) (seen : List UInt8) : Prop where
  kept : state.output = seen.take MAX_COMMAND_OUTPUT_BYTES
  overflow : state.tooLarge = decide (MAX_COMMAND_OUTPUT_BYTES < seen.length)

theorem follows_start : LimitedOutput.Follows {} [] := ⟨rfl, rfl⟩

/-- One read: what is kept grows to the limit, and going past it is remembered. -/
theorem follows_extend (state : LimitedOutput) (seen : List UInt8) (chunk : Chunk)
    (follows : state.Follows seen) : (state.extend chunk).Follows (seen ++ chunk.bytes) := by
  have kept := follows.kept
  have length : state.output.length = min MAX_COMMAND_OUTPUT_BYTES seen.length := by
    rw [kept, List.length_take]
  have remaining : MAX_COMMAND_OUTPUT_BYTES - state.output.length =
      MAX_COMMAND_OUTPUT_BYTES - seen.length := by omega
  constructor
  · simp only [LimitedOutput.extend, remaining]
    rw [List.take_append, kept, Nat.min_comm, ← List.take_eq_take_min]
  · rw [LimitedOutput.extend, follows.overflow, ← Bool.decide_or, decide_eq_decide, length,
      List.length_append]
    omega

theorem follows_chunks (chunks : List Chunk) (state : LimitedOutput) (seen : List UInt8)
    (follows : state.Follows seen) :
    (chunks.foldl LimitedOutput.extend state).Follows (seen ++ chunks.flatMap Chunk.bytes) := by
  induction chunks generalizing state seen with
  | nil =>
    rw [List.flatMap_nil, List.append_nil]
    exact follows
  | cons chunk later ih =>
    rw [List.foldl_cons, List.flatMap_cons, ← List.append_assoc]
    exact ih _ _ (follows_extend state seen chunk follows)

/-- The loop takes every chunk up to the end of the file, full or not. -/
theorem readLoop_chunks (chunks : List Chunk) (nonempty : ∀ chunk ∈ chunks, chunk.bytes ≠ [])
    (state : LimitedOutput) (later : List (Except IoError Chunk)) :
    readLoop state (chunks.map .ok ++ .ok .endOfFile :: later) =
      (.ok (chunks.foldl LimitedOutput.extend state), later) := by
  induction chunks generalizing state with
  | nil => rfl
  | cons chunk rest ih =>
    have here : chunk.bytes.length ≠ 0 := by
      rw [ne_eq, List.length_eq_zero_iff]
      exact nonempty chunk List.mem_cons_self
    rw [List.map_cons, List.cons_append, readLoop, if_neg here, List.foldl_cons]
    exact ih (fun chunk member => nonempty chunk (List.mem_cons_of_mem _ member)) _

/-- The result depends on the stream alone: all of it, or a refusal. -/
theorem limited_output_exact (chunks : List Chunk)
    (nonempty : ∀ chunk ∈ chunks, chunk.bytes ≠ []) (later : List (Except IoError Chunk)) :
    readLimitedOutput (chunks.map .ok ++ .ok .endOfFile :: later) =
      (if (chunks.flatMap Chunk.bytes).length ≤ MAX_COMMAND_OUTPUT_BYTES then
        .ok (chunks.flatMap Chunk.bytes) else .error .outputTooLarge, later) ∧
    ∀ sofar, sofar <+: chunks →
      (sofar.foldl LimitedOutput.extend {}).output.length ≤ MAX_COMMAND_OUTPUT_BYTES := by
  have follows := fun chunks => follows_chunks chunks {} [] follows_start
  constructor
  · have whole := follows chunks
    rw [readLimitedOutput, readLoop_chunks chunks nonempty]
    simp only [whole.overflow, List.nil_append, decide_eq_true_eq]
    by_cases small : (chunks.flatMap Chunk.bytes).length ≤ MAX_COMMAND_OUTPUT_BYTES
    · rw [if_pos small, if_neg (Nat.not_lt.mpr small), whole.kept, List.nil_append,
        List.take_of_length_le small]
    · rw [if_neg small, if_pos (Nat.lt_of_not_le small)]
  · intro sofar _
    rw [(follows sofar).kept]
    exact List.length_take_le _ _

theorem limited_output_exact_sample :
    readLimitedOutput ([⟨[112, 105], by decide⟩, ⟨[10], by decide⟩].map .ok ++
      .ok .endOfFile :: []) = (.ok [112, 105, 10], []) :=
  (limited_output_exact [⟨[112, 105], by decide⟩, ⟨[10], by decide⟩]
    (by simp) []).1

end RpiHealth
