import VirtualRouter.Proofs.Run.Registries

/-! What an event counts. A counter grows by the number of times that its thing is counted, until it is full. Freeing a
    held packet and the state of elements count failures only, and no event drops more than one packet, so that the
    dropped packets are at most as many as the events. -/

namespace VirtualRouter

variable {config : Config} {observed : Bool} {history : History} {c c' : Controller} {a : Answers} {trail : Trail}
  {k : Counter}

/-! ### Counters -/

theorem toNat_foldl_bump (ks : List Counter) (counters : Counters) (k : Counter) :
    ((ks.foldl Counters.bump counters).get k).toNat =
      min ((counters.get k).toNat + ks.count k) (UInt64.size - 1) := by
  induction ks generalizing counters with
  | nil =>
    have bound := (counters.get k).count.toNat_lt
    simp only [List.foldl_nil, List.count_nil, Tally.toNat, UInt64.size] at *
    omega
  | cons j ks ih =>
    rw [List.foldl_cons, ih, Counters.get_bump, List.count_cons]
    by_cases same : k = j
    · subst same
      simp only [if_true, Tally.toNat_next, beq_self_eq_true]
      omega
    · simp [same, Ne.symm same]

theorem Controller.toNat_counting (c : Controller) (ks : List Counter) (k : Counter) :
    ((c.counting ks).counters.get k).toNat = min ((c.counters.get k).toNat + ks.count k) (UInt64.size - 1) :=
  toNat_foldl_bump ks c.counters k

theorem Tally.toNat_inj {s t : Tally} (same : s.toNat = t.toNat) : s = t := by
  cases s
  cases t
  exact congrArg _ (UInt64.toNat_inj.1 same)

/-- A thing that is counted once takes its counter to the next value. -/
theorem Controller.get_counting_once {ks : List Counter} (once : ks.count k = 1) :
    (c.counting ks).counters.get k = (c.counters.get k).next := by
  refine Tally.toNat_inj ?_
  rw [toNat_counting, once, Tally.toNat_next]

/-! ### What trails count -/

namespace Trail

@[simp] theorem counts_count (k : Counter) : (count k).counts = [k] := rfl

@[simp] theorem counts_call (call : Call) : (Trail.call call).counts = [] := rfl

@[simp] theorem counts_announce (told : Bool) (incoming installed : HeaderMatch) (ingress : PortId)
    (elements : ElementSet) : (announce told incoming installed ingress elements).counts = [] := by
  unfold announce
  split <;> rfl

theorem count_failure {ε : Type} {j : Counter} (other : k ≠ j) (answer : Except ε Unit) :
    (failure j answer).counts.count k = 0 := by
  cases answer with
  | ok => rfl
  | error => simp [failure, Ne.symm other]

section Failures
variable (a : Answers) (buffer : Buffer) (rule : FlowRule) (data : Octets)

theorem count_freeing (other : k ≠ .datapathErrors) : (freeing a buffer).counts.count k = 0 := by
  unfold freeing
  split
  · simpa using count_failure other _
  · rfl

theorem count_send (other : k ≠ .datapathErrors) (inPort : PortNumber) (actions : List Action) :
    (send a buffer inPort actions data).counts.count k = 0 := by
  simpa [send] using count_failure other _

theorem count_release (other : k ≠ .elementCleanupFailures) (flow : HeaderMatch) (elements : ElementSet) :
    (release a flow elements).counts.count k = 0 := by
  refine List.count_eq_zero.2 fun counted => ?_
  obtain ⟨e, -, failed⟩ := List.mem_flatMap.1 counted
  exact List.count_eq_zero.1 (count_failure other _) failed

theorem count_drop (neither : k ≠ .blackholesInstalled) (other : k ≠ .datapathErrors) :
    (drop a rule).counts.count k = 0 := by
  unfold drop
  cases a.addRule rule <;> simp [Ne.symm neither, Ne.symm other]

theorem count_accepted (neither : k ≠ .flowsInstalled) (other : k ≠ .datapathErrors) :
    (accepted a rule data).counts.count k = 0 := by
  have emitted : (emission a rule.buffer rule.actions data).counts.count k = 0 := by
    unfold emission
    split
    · rfl
    · exact count_send a _ data other ..
  simp [accepted, emitted, Ne.symm neither]

end Failures

end Trail

/-! ### Dropped packets -/

namespace Course

theorem CarriesOut.dropped {d : DecidedPacket} {v : Verdict} (course : CarriesOut a c d v c' trail) :
    trail.counts.count .packetsDropped ≤ 1 := by
  cases course <;>
    simp [Trail.reject, Trail.ask, Trail.refused, Trail.discard, Trail.count_freeing, Trail.count_release, Trail.count_drop,
      Trail.count_accepted]

theorem Resumes.dropped {p : ParkedPacket} {mac : Option Mac} (course : Resumes a c p mac c' trail) :
    trail.counts.count .packetsDropped ≤ 1 := by
  cases course <;>
    simp [Trail.refused, Trail.discard, Trail.count_freeing, Trail.count_release, Trail.count_drop, Trail.count_accepted,
      Trail.count_send]

/-- An event drops one packet at most. -/
theorem Handles.dropped {e : Event} (course : Handles a c e c' trail) : trail.counts.count .packetsDropped ≤ 1 := by
  cases course with
  | arrives course =>
    cases course with
    | decided _ _ _ _ _ course => simpa using course.dropped
    | _ => simp [Trail.discard, Trail.ask, Trail.count_freeing, Trail.count_release, Trail.count_drop]
  | resumes _ course => exact course.dropped
  | removed => simp [Trail.count_release]
  | attached => simp [Trail.count_failure]
  | _ => exact Nat.zero_le 1

end Course

/-- The counters after an event are those before it, with the things of its trail counted. -/
theorem Entry.counted (x : Entry) : ∃ c' trail, Course.Handles x.answers x.before x.event c' trail ∧
    ∀ k, (x.after.counters.get k).toNat =
      min ((x.before.counters.get k).toNat + trail.counts.count k) (UInt64.size - 1) := by
  obtain ⟨c', trail, course, after, -⟩ := x.course
  refine ⟨c', trail, course, fun k => ?_⟩
  rw [after, Controller.toNat_counting, course.frame.2]

theorem Run.dropped_le (run : Run config observed history c) : c.counters.packetsDropped.toNat ≤ history.length := by
  induction run with
  | initial => exact Nat.le_refl 0
  | retarget _ _ ih => exact ih
  | @handle history c a e run ih =>
    obtain ⟨c', trail, course, counted⟩ := Entry.counted ⟨c, a, e⟩
    have once := course.dropped
    have counted := counted .packetsDropped
    show (Entry.after ⟨c, a, e⟩).counters.packetsDropped.toNat ≤ _
    simp only [Counters.get] at counted
    rw [counted, List.length_cons]
    omega

end VirtualRouter
