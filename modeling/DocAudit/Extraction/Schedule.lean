import DocAudit.Extraction.Basic

/-! # Schedules of a crew

    Jobs are handed in one after another; workers take them from the queue in that
    order and finish them in ANY order.  Once all jobs are handed in, a collector waits
    for their results, in the order of the jobs.

    A job either gives a result or is interrupted.  The first interrupted job that the
    collector meets makes it drop what it holds, and the jobs still in the queue may be
    called off from then on.  The crew is dismissed when no job is left. -/

namespace DocAudit

/-- How far the collector has come. -/
inductive Gathering (α : Type) where
  /-- It waits for the first of the jobs `left` and holds the results of those before. -/
  | holding (left : List Nat) (results : List α)
  /-- It met an interrupted job and holds nothing any more. -/
  | stopped
  deriving Repr, DecidableEq

/-- The state of a crew: the jobs not yet handed in, the queue, the jobs under way, what
    finished jobs gave, and the collector.  Jobs are named by their positions. -/
structure Crew (α : Type) where
  waiting : List Nat
  queue : List Nat
  busy : List Nat
  done : List (Nat × Option α)
  gathering : Gathering α
  deriving Repr, DecidableEq

namespace Crew

variable {α : Type}

/-- The crew before the first of `n` jobs is handed in. -/
def start (n : Nat) : Crew α := ⟨List.range n, [], [], [], .holding (List.range n) []⟩

/-- One step of a crew of `workers` workers; `job i` is what job `i` gives, `none` if it
    is interrupted. -/
inductive Step (workers : Nat) (job : Nat → Option α) : Crew α → Crew α → Prop where
  /-- The next job is handed in. -/
  | submit (i : Nat) (waiting queue busy : List Nat) (done : List (Nat × Option α))
      (gathering : Gathering α) :
      Step workers job ⟨i :: waiting, queue, busy, done, gathering⟩
        ⟨waiting, queue ++ [i], busy, done, gathering⟩
  /-- An idle worker takes the job at the head of the queue. -/
  | take (i : Nat) (waiting queue busy : List Nat) (done : List (Nat × Option α))
      (gathering : Gathering α) (idle : busy.length < workers) :
      Step workers job ⟨waiting, i :: queue, busy, done, gathering⟩
        ⟨waiting, queue, i :: busy, done, gathering⟩
  /-- A worker finishes a job. -/
  | finish (i : Nat) (waiting queue before after : List Nat) (done : List (Nat × Option α))
      (gathering : Gathering α) :
      Step workers job ⟨waiting, queue, before ++ i :: after, done, gathering⟩
        ⟨waiting, queue, before ++ after, (i, job i) :: done, gathering⟩
  /-- The collector gets the result that it waits for. -/
  | gather (i : Nat) (queue busy : List Nat) (done : List (Nat × Option α)) (left : List Nat)
      (results : List α) (result : α) (given : (i, some result) ∈ done) :
      Step workers job ⟨[], queue, busy, done, .holding (i :: left) results⟩
        ⟨[], queue, busy, done, .holding left (results ++ [result])⟩
  /-- The job that the collector waits for was interrupted. -/
  | stop (i : Nat) (queue busy : List Nat) (done : List (Nat × Option α)) (left : List Nat)
      (results : List α) (given : (i, none) ∈ done) :
      Step workers job ⟨[], queue, busy, done, .holding (i :: left) results⟩
        ⟨[], queue, busy, done, .stopped⟩
  /-- A job in the queue is called off. -/
  | cancel (i : Nat) (before after busy : List Nat) (done : List (Nat × Option α)) :
      Step workers job ⟨[], before ++ i :: after, busy, done, .stopped⟩
        ⟨[], before ++ after, busy, done, .stopped⟩

/-- A number of steps leads from one state to another. -/
inductive Run (workers : Nat) (job : Nat → Option α) : Nat → Crew α → Crew α → Prop where
  | refl (crew : Crew α) : Run workers job 0 crew crew
  | tail {steps : Nat} {a b c : Crew α} :
      Run workers job steps a b → Step workers job b c → Run workers job (steps + 1) a c

/-- The crew has no job left: it gives back all results, or `none` if it was
    interrupted. -/
inductive Dismissed : Crew α → Option (List α) → Prop where
  | returned (done : List (Nat × Option α)) (results : List α) :
      Dismissed ⟨[], [], [], done, .holding [] results⟩ (some results)
  | interrupted (done : List (Nat × Option α)) : Dismissed ⟨[], [], [], done, .stopped⟩ none

/-- How many workers a crew has; `usual` is the number if none is asked for. -/
def size (usual : Nat) : Option Int → Nat
  | none => usual
  | some n => n.toNat

end Crew

/-- What the job of extracting a record gives, which record being named by its position;
    `interrupted` says which jobs are interrupted. -/
def extractionJob (interrupted : Nat → Bool) (records : List RecordedFile) (i : Nat) :
    Option SourceFile :=
  if interrupted i then none else records[i]?.map RecordedFile.extract

end DocAudit
