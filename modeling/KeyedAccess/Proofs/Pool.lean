import KeyedAccess.Proofs.Computation
import KeyedAccess.Proofs.Generation
import Mathlib.Logic.Relation

/-!
# A pool of workers

Several workers take the jobs of one run from a queue and run them at the same time. What a job
logs and gives is fixed before it starts, but when it is taken, how its records fall between those
of others and when it finishes is up to the schedule. One reader takes the results in the order in
which the jobs were submitted, and stops at the first error; then jobs that still wait may be
cancelled.

Main statement: under every schedule the pool comes to an end, and at its end it has given what the
run without a pool gives.
-/

namespace KeyedAccess

/-- How far a job has come. -/
inductive Job (α : Type) where
  /-- It is still in the queue. -/
  | waiting (outcome : Outcome α)
  /-- A worker runs it: these records are still to be logged, then it gives its result. -/
  | running (left : List Record) (result : Except GenerationError α)
  /-- It has given its result. -/
  | finished (result : Except GenerationError α)
  /-- It was taken out of the queue and never runs. -/
  | cancelled

/-- A worker is busy with the job. -/
def Job.isRunning {α : Type} : Job α → Bool
  | .running _ _ => true
  | _ => false

/-- A pool in the middle of its work. -/
structure Pool (α : Type) where
  /-- The jobs in the order in which they were submitted. -/
  jobs : List (Job α)
  /-- The records so far, each with the position of the job that logged it. -/
  log : List (Nat × Record)
  /-- The values that the reader has taken so far. -/
  taken : List α
  /-- The error at which the reader has stopped. -/
  failure : Option GenerationError

variable {α : Type} {size : Nat}

namespace Pool

/-- At first every job waits. -/
def start (outcomes : List (Outcome α)) : Pool α :=
  ⟨outcomes.map .waiting, [], [], none⟩

/-- The number of workers that run a job. -/
def busy (p : Pool α) : Nat := p.jobs.countP (·.isRunning)

/-- What the reader gives at the end. -/
def result (p : Pool α) : Except GenerationError (List α) :=
  match p.failure with
  | none => .ok p.taken
  | some e => .error e

/-- The records that the job at a position has logged, in their order. -/
def recordsOf (log : List (Nat × Record)) (position : Nat) : List Record :=
  (log.filter (·.1 == position)).map (·.2)

/-- What may happen next in a pool with so many workers. -/
inductive Step (size : Nat) : Pool α → Pool α → Prop where
  /-- A free worker takes the first job in the queue. -/
  | take {p : Pool α} {i : Nat} {o : Outcome α} (here : p.jobs[i]? = some (.waiting o))
      (first : ∀ j < i, ∀ other, p.jobs[j]? ≠ some (.waiting other)) (free : p.busy < size) :
      Step size p { p with jobs := p.jobs.set i (.running o.log o.result) }
  /-- A running job logs its next record. -/
  | record {p : Pool α} {i : Nat} {r : Record} {left : List Record}
      {result : Except GenerationError α} (here : p.jobs[i]? = some (.running (r :: left) result)) :
      Step size p { p with jobs := p.jobs.set i (.running left result), log := p.log ++ [(i, r)] }
  /-- A running job that has logged everything gives its result. -/
  | finish {p : Pool α} {i : Nat} {result : Except GenerationError α}
      (here : p.jobs[i]? = some (.running [] result)) :
      Step size p { p with jobs := p.jobs.set i (.finished result) }
  /-- The reader takes the next value. -/
  | collect {p : Pool α} {value : α} (here : p.jobs[p.taken.length]? = some (.finished (.ok value)))
      (reading : p.failure = none) :
      Step size p { p with taken := p.taken ++ [value] }
  /-- The reader stops at an error. -/
  | stop {p : Pool α} {e : GenerationError}
      (here : p.jobs[p.taken.length]? = some (.finished (.error e))) (reading : p.failure = none) :
      Step size p { p with failure := some e }
  /-- Once the reader has stopped, a job in the queue may be cancelled. -/
  | cancel {p : Pool α} {i : Nat} {o : Outcome α} (here : p.jobs[i]? = some (.waiting o))
      (stopped : p.failure ≠ none) :
      Step size p { p with jobs := p.jobs.set i .cancelled }

/-- The pool gets there from its start under some schedule. -/
def Reachable (size : Nat) (outcomes : List (Outcome α)) : Pool α → Prop :=
  Relation.ReflTransGen (Step size) (start outcomes)

/-- Nothing can happen any more. -/
def Ended (size : Nat) (p : Pool α) : Prop := ∀ q, ¬ Step size p q

/-! ## Every schedule ends -/

/-- How much a job still has to do. -/
def workOf : Job α → Nat
  | .waiting o => o.log.length + 2
  | .running left _ => left.length + 1
  | .finished _ | .cancelled => 0

/-- How much the workers still have to do. -/
def workLeft : List (Job α) → Nat
  | [] => 0
  | t :: jobs => workOf t + workLeft jobs

/-- How much the workers and the reader still have to do. -/
def remaining (p : Pool α) : Nat :=
  workLeft p.jobs + (p.jobs.length - p.taken.length) + if p.failure = none then 1 else 0

private theorem workLeft_set {jobs : List (Job α)} {i : Nat} {t : Job α} (t' : Job α)
    (h : jobs[i]? = some t) :
    workLeft (jobs.set i t') + workOf t = workLeft jobs + workOf t' := by
  induction jobs generalizing i with
  | nil => cases h
  | cons head jobs ih =>
    cases i with
    | zero =>
      cases h
      simp only [List.set_cons_zero, workLeft]
      omega
    | succ i =>
      have := ih h
      simp only [List.set_cons_succ, workLeft]
      omega

/-- Every step leaves less to do. -/
theorem Step.remaining_lt {p q : Pool α} (h : Step size p q) : q.remaining < p.remaining := by
  cases h with
  | @take i o here first free =>
    have := workLeft_set (.running o.log o.result) here
    simp only [remaining, workOf, List.length_set] at this ⊢
    omega
  | @record i r left result here =>
    have := workLeft_set (.running left result) here
    simp only [remaining, workOf, List.length_set, List.length_cons] at this ⊢
    omega
  | @finish i result here =>
    have := workLeft_set (.finished result) here
    simp only [remaining, workOf, List.length_set, List.length_nil] at this ⊢
    omega
  | @collect value here reading =>
    obtain ⟨hlt, -⟩ := List.getElem?_eq_some_iff.mp here
    simp only [remaining, List.length_append, List.length_singleton]
    omega
  | @stop e here reading =>
    simp [remaining, reading]
  | @cancel i o here stopped =>
    have := workLeft_set .cancelled here
    simp only [remaining, workOf, List.length_set] at this ⊢
    omega

private theorem not_forever (run : Nat → Pool α) : ¬ ∀ n, Step size (run n) (run (n + 1)) := by
  intro h
  have hbound : ∀ n, (run n).remaining + n ≤ (run 0).remaining := by
    intro n
    induction n with
    | zero => exact Nat.le_refl _
    | succ n ih =>
      have := (h n).remaining_lt
      omega
  have := hbound ((run 0).remaining + 1)
  omega

/-! ## What every schedule keeps -/

@[simp] private theorem recordsOf_append_self (log : List (Nat × Record)) (i : Nat) (r : Record) :
    recordsOf (log ++ [(i, r)]) i = recordsOf log i ++ [r] := by
  simp [recordsOf]

private theorem recordsOf_append_of_ne {i j : Nat} (log : List (Nat × Record)) (r : Record)
    (h : j ≠ i) :
    recordsOf (log ++ [(i, r)]) j = recordsOf log j := by
  simp [recordsOf, h.symm]

/-- How far a job can have come when it has logged these records of its outcome. -/
inductive Reached : Outcome α → List Record → Job α → Prop where
  /-- Nothing is logged before the start. -/
  | waiting (o : Outcome α) : Reached o [] (.waiting o)
  /-- While it runs, what it has logged and what is left make up its log. -/
  | running (logged left : List Record) (result : Except GenerationError α) :
      Reached ⟨logged ++ left, result⟩ logged (.running left result)
  /-- At the end it has logged everything. -/
  | finished (o : Outcome α) : Reached o o.log (.finished o.result)
  /-- A cancelled job logs nothing. -/
  | cancelled (o : Outcome α) : Reached o [] .cancelled

section Reached

variable {o o' : Outcome α} {own left : List Record} {r : Record}
  {result : Except GenerationError α}

/-- A job that is taken has logged nothing, and all of its log is left. -/
theorem Reached.take (h : Reached o own (.waiting o')) :
    Reached o own (.running o'.log o'.result) := by
  cases h
  exact .running [] o.log o.result

/-- A record that is logged goes from what is left to what has been logged. -/
theorem Reached.record (h : Reached o own (.running (r :: left) result)) :
    Reached o (own ++ [r]) (.running left result) := by
  cases h
  rw [← List.singleton_append, ← List.append_assoc]
  exact .running (own ++ [r]) left result

/-- When nothing is left, the whole log has been logged. -/
theorem Reached.finish (h : Reached o own (.running [] result)) :
    Reached o own (.finished result) := by
  cases h
  rw [List.append_nil]
  exact .finished ⟨own, result⟩

private theorem Reached.cancel (h : Reached o own (.waiting o')) : Reached o own .cancelled := by
  cases h
  exact .cancelled o

end Reached

/-- What holds of a pool under every schedule. -/
structure Sound (outcomes : List (Outcome α)) (p : Pool α) : Prop where
  /-- No job is lost. -/
  length_eq : p.jobs.length = outcomes.length
  /-- Every job has logged its own records, up to where it is. -/
  reached : ∀ {i : Nat} {o : Outcome α} {t : Job α}, outcomes[i]? = some o →
    p.jobs[i]? = some t → Reached o (recordsOf p.log i) t
  /-- Nothing but the jobs has logged anything. -/
  logged : ∀ entry ∈ p.log, entry.1 < outcomes.length
  /-- The reader has taken the first results. -/
  taken : p.taken.map .ok <+: outcomes.map (·.result)
  /-- It has stopped at the result that came next. -/
  stopped : ∀ e ∈ p.failure, p.taken.map .ok ++ [.error e] <+: outcomes.map (·.result)
  /-- Only then has a job been cancelled. -/
  uncancelled : p.failure = none → .cancelled ∉ p.jobs

/-- The pool is sound at its start. -/
theorem sound_start (outcomes : List (Outcome α)) : Sound outcomes (start outcomes) where
  length_eq := List.length_map _
  reached := by
    intro i o t ho ht
    rw [start, List.getElem?_map, ho] at ht
    cases ht
    exact .waiting o
  logged := by simp [start]
  taken := List.nil_prefix
  stopped := by simp [start]
  uncancelled := by simp [start]

variable {outcomes : List (Outcome α)} {p q : Pool α}

/-- When one job comes further and logs in no other's name, every job is where its own records
say. -/
theorem Sound.reached_set (h : Sound outcomes p) {i : Nat} {t t' : Job α}
    {log : List (Nat × Record)} (here : p.jobs[i]? = some t)
    (others : ∀ j, j ≠ i → recordsOf log j = recordsOf p.log j)
    (own : ∀ {o}, Reached o (recordsOf p.log i) t → Reached o (recordsOf log i) t')
    {j : Nat} {o : Outcome α} {u : Job α} (ho : outcomes[j]? = some o)
    (hu : (p.jobs.set i t')[j]? = some u) : Reached o (recordsOf log j) u := by
  rcases eq_or_ne j i with rfl | hne
  · obtain ⟨hlt, -⟩ := List.getElem?_eq_some_iff.mp here
    rw [List.getElem?_set_self hlt] at hu
    cases hu
    exact own (h.reached ho here)
  · rw [List.getElem?_set_ne hne.symm] at hu
    rw [others j hne]
    exact h.reached ho hu

/-- When one job comes further and logs in no other's name, the pool stays sound. A job may only be
cancelled once the reader has stopped. -/
theorem Sound.set (h : Sound outcomes p) {i : Nat} {t t' : Job α} {log : List (Nat × Record)}
    (here : p.jobs[i]? = some t) (others : ∀ j, j ≠ i → recordsOf log j = recordsOf p.log j)
    (own : ∀ {o}, Reached o (recordsOf p.log i) t → Reached o (recordsOf log i) t')
    (logged : ∀ entry ∈ log, entry.1 < outcomes.length)
    (kept : p.failure = none → t' ≠ .cancelled) :
    Sound outcomes { p with jobs := p.jobs.set i t', log } where
  length_eq := by rw [List.length_set, h.length_eq]
  reached := h.reached_set here others own
  logged := logged
  taken := h.taken
  stopped := h.stopped
  uncancelled := by
    intro hp hmem
    rcases List.mem_or_eq_of_mem_set hmem with hold | heq
    · exact h.uncancelled hp hold
    · exact kept hp heq.symm

/-- The result that a finished job has given is that of its outcome. -/
theorem Sound.result_of_finished (h : Sound outcomes p) {i : Nat}
    {result : Except GenerationError α} (here : p.jobs[i]? = some (.finished result)) :
    (outcomes.map (·.result))[i]? = some result := by
  obtain ⟨hlt, -⟩ := List.getElem?_eq_some_iff.mp here
  obtain ⟨o, ho⟩ : ∃ o, outcomes[i]? = some o :=
    ⟨_, List.getElem?_eq_getElem (h.length_eq ▸ hlt)⟩
  have hr := h.reached ho here
  generalize recordsOf p.log i = own at hr
  rw [List.getElem?_map, ho]
  cases hr
  rfl

private theorem prefix_concat {β : Type} {front list : List β} {next : β} (h : front <+: list)
    (hnext : list[front.length]? = some next) : front ++ [next] <+: list := by
  obtain ⟨rest, rfl⟩ := h
  rw [List.getElem?_append_right (Nat.le_refl _), Nat.sub_self, ← List.head?_eq_getElem?] at hnext
  obtain ⟨others, rfl⟩ := List.head?_eq_some_iff.mp hnext
  exact ⟨others, by rw [List.append_assoc, List.singleton_append]⟩

/-- Every step keeps the pool sound. -/
theorem Sound.step (h : Sound outcomes p) (hstep : Step size p q) : Sound outcomes q := by
  cases hstep with
  | take here first free =>
    exact h.set here (fun _ _ => rfl) Reached.take h.logged fun _ => nofun
  | @record i r left result here =>
    have hlogged : ∀ entry ∈ p.log ++ [(i, r)], entry.1 < outcomes.length := by
      obtain ⟨hlt, -⟩ := List.getElem?_eq_some_iff.mp here
      intro entry hentry
      rcases List.mem_append.mp hentry with hold | hnew
      · exact h.logged entry hold
      · rw [List.mem_singleton.mp hnew, ← h.length_eq]
        exact hlt
    refine h.set here (fun _ hne => recordsOf_append_of_ne _ _ hne) (fun hr => ?_) hlogged
      fun _ => nofun
    rw [recordsOf_append_self]
    exact hr.record
  | finish here =>
    exact h.set here (fun _ _ => rfl) Reached.finish h.logged fun _ => nofun
  | @collect value here reading =>
    have hnext := h.result_of_finished here
    refine { h with taken := ?_, stopped := ?_ }
    · rw [List.map_append]
      exact prefix_concat h.taken (by rw [List.length_map]; exact hnext)
    · intro e he
      rw [reading] at he
      cases he
  | @stop e here reading =>
    have hnext := h.result_of_finished here
    refine { h with stopped := ?_, uncancelled := fun hnone => by cases hnone }
    intro e' he
    cases he
    exact prefix_concat h.taken (by rw [List.length_map]; exact hnext)
  | cancel here stopped =>
    exact h.set here (fun _ _ => rfl) Reached.cancel h.logged fun hnone => absurd hnone stopped

/-- So the pool is sound at every moment. -/
theorem Reachable.sound (h : Reachable size outcomes p) : Sound outcomes p := by
  induction h with
  | refl => exact sound_start outcomes
  | tail _ hstep ih => exact ih.step hstep

/-! ## Where a schedule ends -/

/-- At the end no job waits and none runs. -/
theorem Ended.cancelled_or_finished (hsize : 0 < size) (hended : Ended size p) {i : Nat} {t : Job α}
    (ht : p.jobs[i]? = some t) : t = .cancelled ∨ ∃ result, t = .finished result := by
  have hidle : ∀ t ∈ p.jobs, t.isRunning = false := by
    intro t hmem
    obtain ⟨j, hj⟩ := List.mem_iff_getElem?.mp hmem
    match t with
    | .running [] _ => exact (hended _ (.finish hj)).elim
    | .running (_ :: _) _ => exact (hended _ (.record hj)).elim
    | .waiting _ | .finished _ | .cancelled => rfl
  -- With every worker free, the first waiting job could be taken.
  have hqueue : ∀ (j : Nat) (o : Outcome α), p.jobs[j]? ≠ some (.waiting o) := by
    intro j
    induction j using Nat.strongRecOn with
    | ind j ih =>
      intro o hj
      refine hended _ (.take hj ih ?_)
      rw [busy, List.countP_eq_zero.mpr fun t ht => by simp [hidle t ht]]
      exact hsize
  match t with
  | .waiting o => exact (hqueue i o ht).elim
  | .running _ _ => exact absurd (hidle _ (List.mem_of_getElem? ht)) Bool.true_eq_false.mp
  | .finished result => exact .inr ⟨result, rfl⟩
  | .cancelled => exact .inl rfl

/-- Once every job has finished and every result is taken, nothing is left to do. -/
theorem ended_of_finished (hjobs : ∀ t ∈ p.jobs, ∃ result, t = .finished result)
    (htaken : p.taken.length = p.jobs.length) : Ended size p := by
  intro q hstep
  cases hstep with
  | take here | record here | finish here | cancel here =>
    obtain ⟨result, heq⟩ := hjobs _ (List.mem_of_getElem? here)
    cases heq
  | collect here | stop here =>
    obtain ⟨hlt, -⟩ := List.getElem?_eq_some_iff.mp here
    omega

/-- If the reader never stopped, every job has finished and it has taken every result. -/
theorem Ended.taken_all (hsize : 0 < size) (hended : Ended size p) (h : Sound outcomes p)
    (hfailure : p.failure = none) : p.taken.map .ok = outcomes.map (·.result) := by
  refine h.taken.eq_of_length_le ?_
  by_contra hlt
  rw [List.length_map, List.length_map, ← h.length_eq, Nat.not_le] at hlt
  have hnext := List.getElem?_eq_getElem hlt
  rcases hended.cancelled_or_finished hsize hnext with heq | ⟨result, heq⟩
  · exact h.uncancelled hfailure (heq ▸ List.getElem_mem hlt)
  · rw [heq] at hnext
    cases result with
    | ok value => exact hended _ (.collect hnext hfailure)
    | error e => exact hended _ (.stop hnext hfailure)

/-- If the reader never stopped, every job has logged all its records. -/
theorem Ended.recordsOf_eq (hsize : 0 < size) (hended : Ended size p) (h : Sound outcomes p)
    (hfailure : p.failure = none) {i : Nat} {o : Outcome α} (ho : outcomes[i]? = some o) :
    recordsOf p.log i = o.log := by
  obtain ⟨hlt, -⟩ := List.getElem?_eq_some_iff.mp ho
  have hi := List.getElem?_eq_getElem (h.length_eq.symm ▸ hlt)
  have hr := h.reached ho hi
  rcases hended.cancelled_or_finished hsize hi with heq | ⟨result, heq⟩
  · exact (h.uncancelled hfailure (heq ▸ List.getElem_mem _)).elim
  · rw [heq] at hr
    generalize recordsOf p.log i = own at hr ⊢
    cases hr
    rfl

private theorem perm_flatten_recordsOf {logs : List (List Record)} {log : List (Nat × Record)}
    (hlogged : ∀ entry ∈ log, entry.1 < logs.length)
    (hown : ∀ i own, logs[i]? = some own → recordsOf log i = own) :
    (log.map (·.2)).Perm logs.flatten := by
  induction logs using List.reverseRecOn generalizing log with
  | nil =>
    rw [List.eq_nil_iff_forall_not_mem.mpr fun entry h => Nat.not_lt_zero _ (hlogged entry h)]
    rfl
  | append_singleton logs last ih =>
    have hlast : recordsOf log logs.length = last :=
      hown _ _ (List.getElem?_concat_length ..)
    -- The records of the last job aside, the log is that of the jobs before it.
    have hrest : ((log.filter fun entry => !(entry.1 == logs.length)).map (·.2)).Perm
        logs.flatten := by
      refine ih (fun entry hentry => ?_) fun i own hi => ?_
      · obtain ⟨hmem, hne⟩ := List.mem_filter.mp hentry
        have hlt := hlogged entry hmem
        rw [List.length_append, List.length_singleton] at hlt
        have : entry.1 ≠ logs.length := by simpa using hne
        omega
      · obtain ⟨hlt, -⟩ := List.getElem?_eq_some_iff.mp hi
        rw [← hown i own (by rw [List.getElem?_append_left hlt, hi]), recordsOf, recordsOf,
          List.filter_filter]
        congr 2
        funext entry
        rw [Bool.and_eq_left_iff_imp]
        intro heq
        have : entry.1 ≠ logs.length := by
          have := eq_of_beq heq
          omega
        simpa using this
    have hsplit := (List.filter_append_perm (fun entry => entry.1 == logs.length) log).map (·.2)
    rw [List.map_append] at hsplit
    rw [List.flatten_append, List.flatten_singleton, ← hlast]
    exact hsplit.symm.trans ((List.perm_append_comm).trans (hrest.append_right _))

/-- If the reader never stopped, the log is that of the jobs one after the other, up to its
order. -/
theorem Ended.perm_log (hsize : 0 < size) (hended : Ended size p) (h : Sound outcomes p)
    (hfailure : p.failure = none) : (p.log.map (·.2)).Perm (outcomes.flatMap (·.log)) := by
  rw [List.flatMap_def]
  refine perm_flatten_recordsOf (by simpa using h.logged) fun i own hi => ?_
  rw [List.getElem?_map, Option.map_eq_some_iff] at hi
  obtain ⟨o, ho, rfl⟩ := hi
  exact hended.recordsOf_eq hsize h hfailure ho

end Pool

/-! ## The run without a pool -/

/-- If every outcome is a value, they give these values. -/
theorem mapM_result_eq_ok {outcomes : List (Outcome α)} {values : List α}
    (h : values.map .ok = outcomes.map (·.result)) : outcomes.mapM (·.result) = .ok values := by
  have hpairs : List.Forall₂ Eq (outcomes.map (·.result)) (values.map .ok) := by
    rw [List.forall₂_eq_eq_eq, h]
  exact mapM_eq_ok_iff.mpr (List.forall₂_map_right_iff.mp (List.forall₂_map_left_iff.mp hpairs))

private theorem mapM_result_eq_error {outcomes : List (Outcome α)} {values : List α}
    {e : GenerationError} (h : values.map .ok ++ [.error e] <+: outcomes.map (·.result)) :
    outcomes.mapM (·.result) = .error e := by
  induction values generalizing outcomes with
  | nil =>
    obtain ⟨rest, h⟩ := h
    obtain ⟨o, others, rfl, ho, -⟩ := List.map_eq_cons_iff.mp h.symm
    rw [List.mapM_cons, ho]
    rfl
  | cons value values ih =>
    obtain ⟨rest, h⟩ := h
    obtain ⟨o, others, rfl, ho, hothers⟩ := List.map_eq_cons_iff.mp h.symm
    have hlater := ih ⟨rest, hothers.symm⟩
    rw [List.mapM_cons, ho, hlater]
    rfl

/-- What the reader gives at the end is what the outcomes give one after the other. -/
theorem Pool.Ended.result_eq {outcomes : List (Outcome α)} {p : Pool α} (hsize : 0 < size)
    (hended : Ended size p) (h : Sound outcomes p) : p.result = outcomes.mapM (·.result) := by
  rw [Pool.result]
  split
  next hfailure => rw [mapM_result_eq_ok (hended.taken_all hsize h hfailure)]
  next e hfailure => rw [mapM_result_eq_error (h.stopped e hfailure)]

variable {language : String} {options : List (String × String)}

/-- Steps that all succeed give a list of values. -/
theorem exists_map_ok {β : Type} {step : β → Except GenerationError α} {inputs : List β}
    (h : ∀ input ∈ inputs, ∃ value, step input = .ok value) :
    ∃ values : List α, values.map .ok = inputs.map step := by
  induction inputs with
  | nil => exact ⟨[], rfl⟩
  | cons input inputs ih =>
    obtain ⟨value, hvalue⟩ := h input List.mem_cons_self
    obtain ⟨values, hvalues⟩ := ih fun other hother => h other (List.mem_cons_of_mem _ hother)
    exact ⟨value :: values, by rw [List.map_cons, List.map_cons, hvalue, hvalues]⟩

/-- Without a pool several declarations give what their outcomes give one after the other. -/
theorem generateEach_result (declarations : List Declaration) :
    (generateEach declarations language options).result =
      (declarations.map fun d => generate d language options).mapM (·.result) := by
  induction declarations with
  | nil => rfl
  | cons d rest ih =>
    rw [List.map_cons, List.mapM_cons, ← ih, generateEach, Outcome.andThen]
    cases (generate d language options).result with
    | error e => rfl
    | ok accessor =>
      simp only [Outcome.andThen]
      cases (generateEach rest language options).result <;> rfl

/-- If none of them fails, their records stand one after the other. -/
theorem log_generateEach {declarations : List Declaration} {accessors : List Accessor}
    (h : (generateEach declarations language options).result = .ok accessors) :
    (generateEach declarations language options).log =
      (declarations.map fun d => generate d language options).flatMap (·.log) := by
  induction declarations generalizing accessors with
  | nil => rfl
  | cons d rest ih =>
    obtain ⟨accessor, hfirst, hthen⟩ := Outcome.andThen_eq_ok.mp h
    obtain ⟨others, hothers, -⟩ := Outcome.andThen_eq_ok.mp hthen
    rw [List.map_cons, List.flatMap_cons, ← ih hothers]
    simp only [generateEach, Outcome.andThen, hfirst, hothers, List.append_nil]

/-- A pool of this size serves a request for so many workers; without a request any number of them
will do. -/
def Serves (size : Nat) (workers : Option Int) : Prop :=
  0 < size ∧ ∀ requested ∈ workers, requested = size

/-- The jobs of a run. -/
def jobsFor (declarations : List Declaration) (language : String)
    (options : List (String × String)) : List (Outcome Accessor) :=
  (candidates declarations).map fun d => generate d language options

/-- Accessors are those that the declarations give alone if they are the results of the jobs. -/
theorem forall₂_generate_iff {declarations : List Declaration} {accessors : List Accessor} :
    List.Forall₂ (fun d accessor => (generate d language options).result = .ok accessor)
        (candidates declarations) accessors ↔
      accessors.map .ok = (jobsFor declarations language options).map (·.result) := by
  rw [jobsFor, List.map_map, eq_comm, ← List.forall₂_eq_eq_eq, List.forall₂_map_left_iff,
    List.forall₂_map_right_iff]
  rfl

/-- A run without a pool gives what the jobs give one after the other. -/
theorem generateAll_eq {declarations : List Declaration} {workers : Option Int}
    (h : Serves size workers) :
    generateAll declarations language workers options =
      ⟨announceRecord (candidates declarations) language ::
        (generateEach (candidates declarations) language options).log,
        (jobsFor declarations language options).mapM (·.result)⟩ := by
  have hworkers : workers.any (· < 1) = false := by
    obtain ⟨hsize, hrequested⟩ := h
    cases workers with
    | none => rfl
    | some requested =>
      have := hrequested requested rfl
      simp only [Option.any_some, decide_eq_false_iff_not]
      omega
  rw [jobsFor, ← generateEach_result]
  simp only [generateAll, Outcome.andThen, hworkers, Bool.false_eq_true, if_false,
    List.singleton_append]

/-- Whatever the schedule, a pool comes to an end, and at its end it has given what the run without
a pool gives. If every job gives an accessor, these are the accessors that each declaration gives
alone, in order, and the records are those of the run without a pool up to their order, with those
of one job in theirs; otherwise the first error in the order of the declarations wins. -/
theorem generateAll_under_every_schedule {declarations : List Declaration} {workers : Option Int}
    (hserves : Serves size workers) :
    (∀ run : Nat → Pool Accessor, ¬ ∀ n, Pool.Step size (run n) (run (n + 1))) ∧
    ∀ p, Pool.Reachable size (jobsFor declarations language options) p → p.Ended size →
      p.result = (generateAll declarations language workers options).result ∧
      (∀ accessors, List.Forall₂
          (fun d accessor => (generate d language options).result = .ok accessor)
          (candidates declarations) accessors →
        p.result = .ok accessors ∧
        (announceRecord (candidates declarations) language :: p.log.map (·.2)).Perm
          (generateAll declarations language workers options).log ∧
        ∀ i d, (candidates declarations)[i]? = some d →
          Pool.recordsOf p.log i = (generate d language options).log) ∧
      ∀ before d after e, candidates declarations = before ++ d :: after →
        (∀ earlier ∈ before, ∃ accessor,
          (generate earlier language options).result = .ok accessor) →
        (generate d language options).result = .error e → p.result = .error e := by
  have hsize := hserves.1
  refine ⟨Pool.not_forever, fun p hreach hended => ?_⟩
  have hsound := hreach.sound
  have hresult := hended.result_eq hsize hsound
  rw [generateAll_eq hserves]
  refine ⟨hresult, fun accessors haccessors => ?_, fun before d after e hsplit hbefore he => ?_⟩
  · have hok := mapM_result_eq_ok (forall₂_generate_iff.mp haccessors)
    have hfailure : p.failure = none := by
      rw [hok, Pool.result] at hresult
      split at hresult
      next hnone => exact hnone
      next => cases hresult
    refine ⟨hresult.trans hok, .cons _ ?_, fun i d hd => ?_⟩
    · rw [log_generateEach ((generateEach_result _).trans hok)]
      exact hended.perm_log hsize hsound hfailure
    · refine hended.recordsOf_eq hsize hsound hfailure ?_
      rw [jobsFor, List.getElem?_map, hd, Option.map_some]
  · obtain ⟨accessors, haccessors⟩ := exists_map_ok hbefore
    have hfirst : accessors.map .ok ++ [.error e] <+:
        (jobsFor declarations language options).map (·.result) := by
      refine ⟨after.map fun d => (generate d language options).result, ?_⟩
      rw [jobsFor, hsplit, List.map_map, List.map_append, List.map_cons, haccessors,
        List.append_assoc, List.singleton_append, Function.comp_apply, he]
      rfl
    exact hresult.trans (mapM_result_eq_error hfirst)

private theorem reachable_second_first (a b c d : Record) (x y : α) :
    Pool.Reachable 2 [⟨[a, b], .ok x⟩, ⟨[c, d], .ok y⟩]
      ⟨[.finished (.ok x), .finished (.ok y)], [(1, c), (0, a), (1, d), (0, b)], [x, y], none⟩ := by
  refine .head (.take (i := 0) rfl (by simp) (by simp [Pool.busy, Pool.start, Job.isRunning])) ?_
  refine .head (.take (i := 1) rfl (by simp [Pool.start])
    (by simp [Pool.busy, Pool.start, Job.isRunning])) ?_
  refine .head (.record (i := 1) rfl) ?_
  refine .head (.record (i := 0) rfl) ?_
  refine .head (.record (i := 1) rfl) ?_
  refine .head (.finish (i := 1) rfl) ?_
  refine .head (.record (i := 0) rfl) ?_
  refine .head (.finish (i := 0) rfl) ?_
  refine .head (.collect rfl rfl) ?_
  exact .single (.collect rfl rfl)

/-- A class with one property. -/
def crate (name : String) : Declaration :=
  { identifier := name, members := [{ name := "Size", type := "int" }], augmentable := true }

/-- Two such classes around one that takes no companion. -/
def crates : List Declaration := [crate "Box", { identifier := "Lid" }, crate "Chest"]

/-- For these classes such a schedule gives the accessors in order and the records of the run
without a pool, but in another order. -/
theorem crates_second_first : ∃ p accessors,
    Pool.Reachable 2 (jobsFor crates "csharp" []) p ∧ p.Ended 2 ∧
    p.result = .ok accessors ∧ accessors.map (·.identifier) = ["Box", "Chest"] ∧
    p.log.map (·.1) = [1, 0, 1, 0] ∧
    (announceRecord (candidates crates) "csharp" :: p.log.map (·.2)).Perm
      (generateAll crates "csharp" (some 2) []).log := by
  obtain ⟨a, b, c, d, box, chest, hjobs, hbox, hchest⟩ : ∃ a b c d box chest,
      jobsFor crates "csharp" [] = [⟨[a, b], .ok box⟩, ⟨[c, d], .ok chest⟩] ∧
      box.identifier = "Box" ∧ chest.identifier = "Chest" :=
    ⟨_, _, _, _, _, _, rfl, rfl, rfl⟩
  have hreach := reachable_second_first a b c d box chest
  have hended : Pool.Ended 2 ⟨[.finished (.ok box), .finished (.ok chest)],
      [(1, c), (0, a), (1, d), (0, b)], [box, chest], none⟩ :=
    Pool.ended_of_finished (by simp) rfl
  have hserves : Serves 2 (some 2) := ⟨Nat.two_pos, by simp⟩
  have hvalues : [box, chest].map .ok = (jobsFor crates "csharp" []).map (·.result) := by
    rw [hjobs]
    rfl
  rw [← hjobs] at hreach
  obtain ⟨-, hall, -⟩ := (generateAll_under_every_schedule hserves).2 _ hreach hended
  obtain ⟨hresult, hperm, -⟩ := hall _ (forall₂_generate_iff.mpr hvalues)
  exact ⟨_, _, hreach, hended, hresult, by simp [hbox, hchest], rfl, hperm⟩

end KeyedAccess
