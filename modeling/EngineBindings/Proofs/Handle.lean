import EngineBindings.Handle

/-! What becomes of a handle that is resolved again and again.

The engine has a handle to give or none (`EngineAnswer.Gives`), and what it answers may change from
question to question. A handle that is known is never asked for (`resolve_of_known`); an unknown one
is asked for once each time, and stays unknown as long as the engine has none to give.

`LazyHandle.Course` says how a run of any length goes: the engine is asked until it gives a
handle, every time before is refused and every later one returns that handle. So the first answer
settles all the others where it is a handle, or where nothing is resolved a second time, and
nowhere else (`IsSettled`). -/
namespace EngineBindings

/-- What an engine gives that answers with a number, an address or nothing. Zero is no handle,
neither as a number nor as an address. -/
inductive EngineAnswer.Gives : EngineAnswer → Option Int → Prop
  | number {n : Int} (given : n ≠ 0) : Gives (.value (.int n)) (some n)
  | address {address : Nat} (given : address ≠ 0) : Gives (.address address) (some address)
  | zero : Gives (.value (.int 0)) none
  | nothing : Gives (.value .null) none
  | nullAddress : Gives (.address 0) none

namespace LazyHandle

/-- Resolves a handle a number of times: the handle behind that, and what each time gives. -/
def resolveTimes (engine : Nat → EngineAnswer) :
    (times : Nat) → LazyHandle → LazyHandle × List (Except Fault Int)
  | 0, b => (b, [])
  | times + 1, b =>
    let first := b.resolve engine
    let rest := resolveTimes engine times first.1
    (rest.1, first.2 :: rest.2)

/-- Why a handle is refused that the engine does not give. -/
def refusal (b : LazyHandle) : Except Fault Int :=
  .error (.slot (.noBinding b.keyText))

/-- The first answer settles all that resolving a handle gives: no second question is put, and every
time gives the handle that the first answer gives, or is refused where it gives none. -/
structure IsSettled (b : LazyHandle) (reply : Option Int)
    (run : LazyHandle × List (Except Fault Int)) : Prop where
  asked : run.1.asked ≤ b.asked + 1
  given : ∀ handle, reply = some handle → ∀ answer ∈ run.2, answer = .ok handle
  refused : reply = none → ∀ answer ∈ run.2, answer = b.refusal

variable {engine : Nat → EngineAnswer} {replies : Nat → Option Int} {b : LazyHandle}
  {handle : Int} {times : Nat}

/-! ### Once -/

theorem accept_of_gives {answer : EngineAnswer} {reply : Option Int} (h : answer.Gives reply) :
    b.accept answer = reply.elim b.refusal .ok := by
  cases h with
  | number given =>
    have truthy : (Json.int _).isTruthy = true := bne_iff_ne.mpr given
    rw [accept, if_pos truthy]
    rfl
  | address given =>
    rw [accept, if_neg given]
    rfl
  | zero | nothing | nullAddress => rfl

theorem resolve_of_known (known : b.handle = some handle) :
    b.resolve engine = (b, .ok handle) := by
  rw [resolve, known]

theorem resolve_of_given (unknown : b.handle = none)
    (gives : (engine b.asked).Gives (some handle)) :
    b.resolve engine = ({ b with asked := b.asked + 1, handle := some handle }, .ok handle) := by
  simp only [resolve, unknown, accept_of_gives gives, Option.elim_some]

theorem resolve_of_none (unknown : b.handle = none) (gives : (engine b.asked).Gives none) :
    b.resolve engine = ({ b with asked := b.asked + 1 }, b.refusal) := by
  simp only [resolve, unknown, accept_of_gives gives, Option.elim_none, refusal]

/-! ### Any number of times -/

theorem resolveTimes_of_known (known : b.handle = some handle) (times : Nat) :
    b.resolveTimes engine times = (b, List.replicate times (.ok handle)) := by
  induction times with
  | zero => rfl
  | succ times ih => rw [resolveTimes, resolve_of_known known, ih, List.replicate_succ]

theorem resolveTimes_add (b : LazyHandle) (first second : Nat) :
    b.resolveTimes engine (first + second) =
      (((b.resolveTimes engine first).1.resolveTimes engine second).1,
        (b.resolveTimes engine first).2 ++
          ((b.resolveTimes engine first).1.resolveTimes engine second).2) := by
  induction first generalizing b with
  | zero =>
    rw [Nat.zero_add]
    rfl
  | succ first ih =>
    rw [Nat.succ_add, resolveTimes, ih]
    rfl

/-- As long as the engine has none to give, a handle stays unknown and is asked for every time. -/
theorem resolveTimes_of_none (gives : ∀ n, (engine n).Gives (replies n)) (unknown : b.handle = none)
    (missing : ∀ i < times, replies (b.asked + i) = none) :
    b.resolveTimes engine times =
      ({ b with asked := b.asked + times }, List.replicate times b.refusal) := by
  induction times generalizing b with
  | zero => rfl
  | succ times ih =>
    have first : (engine b.asked).Gives none := missing 0 (Nat.succ_pos times) ▸ gives b.asked
    have later : ∀ i < times, replies (b.asked + 1 + i) = none := by
      intro i hi
      rw [Nat.add_assoc, Nat.add_comm 1 i]
      exact missing (i + 1) (Nat.succ_lt_succ hi)
    have next := ih (b := { b with asked := b.asked + 1 }) unknown later
    rw [resolveTimes, resolve_of_none unknown first, next, List.replicate_succ, Nat.add_assoc,
      Nat.add_comm 1 times]
    rfl

/-- The first handle that the engine gives is the one that every later time returns. -/
theorem resolveTimes_of_given (gives : ∀ n, (engine n).Gives (replies n))
    (unknown : b.handle = none) (given : replies b.asked = some handle) (later : Nat) :
    b.resolveTimes engine (later + 1) =
      ({ b with asked := b.asked + 1, handle := some handle },
        List.replicate (later + 1) (.ok handle)) := by
  have first : (engine b.asked).Gives (some handle) := given ▸ gives b.asked
  rw [resolveTimes, resolve_of_given unknown first, resolveTimes_of_known rfl, List.replicate_succ]

/-- What resolving an unknown handle a number of times comes to: it is refused every time, or it is
refused until the engine gives a handle, which is returned from then on. -/
inductive Course (b : LazyHandle) (replies : Nat → Option Int) (times : Nat) :
    LazyHandle × List (Except Fault Int) → Prop
  | refused (missing : ∀ i < times, replies (b.asked + i) = none) :
    Course b replies times ({ b with asked := b.asked + times }, List.replicate times b.refusal)
  | given {refusals : Nat} {handle : Int} (early : refusals < times)
    (missing : ∀ i < refusals, replies (b.asked + i) = none)
    (found : replies (b.asked + refusals) = some handle) :
    Course b replies times
      ({ b with asked := b.asked + refusals + 1, handle := some handle },
        List.replicate refusals b.refusal ++ List.replicate (times - refusals) (.ok handle))

/-- The engine gives none to any of several questions, or a handle to one and none before. -/
theorem refused_or_given (replies : Nat → Option Int) (start times : Nat) :
    (∀ i < times, replies (start + i) = none) ∨
      ∃ refusals < times, (∀ i < refusals, replies (start + i) = none) ∧
        ∃ handle, replies (start + refusals) = some handle := by
  induction times with
  | zero => exact .inl fun i hi => absurd hi (Nat.not_lt_zero i)
  | succ times ih =>
    rcases ih with missing | ⟨refusals, early, missing, found⟩
    · cases last : replies (start + times) with
      | none =>
        refine .inl fun i hi => ?_
        rcases Nat.lt_succ_iff_lt_or_eq.mp hi with before | rfl
        · exact missing i before
        · exact last
      | some handle => exact .inr ⟨times, Nat.lt_succ_self times, missing, handle, last⟩
    · exact .inr ⟨refusals, Nat.lt_succ_of_lt early, missing, found⟩

theorem course_of_unknown (gives : ∀ n, (engine n).Gives (replies n)) (unknown : b.handle = none)
    (times : Nat) : b.Course replies times (b.resolveTimes engine times) := by
  rcases refused_or_given replies b.asked times with missing | ⟨refusals, early, missing, handle, found⟩
  · rw [resolveTimes_of_none gives unknown missing]
    exact .refused missing
  · obtain ⟨later, rfl⟩ : ∃ later, times = refusals + (later + 1) :=
      ⟨times - refusals - 1, by omega⟩
    have rest := resolveTimes_of_given (b := { b with asked := b.asked + refusals })
      gives unknown found later
    rw [resolveTimes_add, resolveTimes_of_none gives unknown missing, rest]
    have whole : b.Course replies (refusals + (later + 1)) _ := .given early missing found
    rwa [Nat.add_sub_cancel_left] at whole

/-! ### What the first answer settles -/

section Course

variable {run : LazyHandle × List (Except Fault Int)}

theorem Course.isSettled_of_given (course : b.Course replies times run)
    (first : replies b.asked = some handle) : b.IsSettled (replies b.asked) run := by
  cases course with
  | refused missing =>
    cases times with
    | zero => exact ⟨Nat.le_succ _, by simp, by simp⟩
    | succ times => cases first.symm.trans (missing 0 (Nat.succ_pos times))
  | @given refusals _ early missing found =>
    cases refusals with
    | zero =>
      refine ⟨Nat.le_refl _, fun other reply answer hanswer => ?_,
        fun reply => nomatch first.symm.trans reply⟩
      · cases found.symm.trans reply
        exact (List.mem_replicate.mp hanswer).2
    | succ refusals => cases first.symm.trans (missing 0 (Nat.succ_pos refusals))

theorem Course.isSettled_of_le_one (course : b.Course replies times run) (few : times ≤ 1) :
    b.IsSettled (replies b.asked) run := by
  cases first : replies b.asked with
  | some handle => exact first ▸ course.isSettled_of_given first
  | none =>
    cases course with
    | refused missing =>
      exact ⟨Nat.add_le_add_left few _, fun _ reply => (nomatch reply),
        fun _ answer hanswer => (List.mem_replicate.mp hanswer).2⟩
    | given early missing found =>
      obtain rfl := Nat.lt_one_iff.mp (Nat.lt_of_lt_of_le early few)
      cases first.symm.trans found

/-- Where the engine gives none to the first question, a second time puts a second one. -/
theorem Course.le_one_of_isSettled (course : b.Course replies times run)
    (first : replies b.asked = none) (settled : b.IsSettled none run) : times ≤ 1 := by
  cases course with
  | refused missing => exact Nat.le_of_add_le_add_left settled.asked
  | @given refusals handle early missing found =>
    cases refusals with
    | zero => cases first.symm.trans found
    | succ refusals =>
      have once : b.asked + (refusals + 1) + 1 ≤ b.asked + 1 := settled.asked
      omega

end Course

/-- A handle that is known is never asked for. An unknown one is resolved along a course: the engine
is asked each time until it gives a handle. The first answer settles every other exactly where it
gives one or no second time follows. -/
theorem resolveTimes_settled_iff (gives : ∀ n, (engine n).Gives (replies n)) (b : LazyHandle)
    (times : Nat) :
    (∀ handle, b.handle = some handle →
        b.resolveTimes engine times = (b, List.replicate times (.ok handle))) ∧
      (b.handle = none → b.Course replies times (b.resolveTimes engine times) ∧
        (b.IsSettled (replies b.asked) (b.resolveTimes engine times) ↔
          times ≤ 1 ∨ (replies b.asked).isSome)) := by
  refine ⟨fun handle known => resolveTimes_of_known known times, fun unknown => ?_⟩
  have course := course_of_unknown gives unknown times
  refine ⟨course, ?_⟩
  constructor
  · intro settled
    cases first : replies b.asked with
    | none =>
      rw [first] at settled
      exact .inl (course.le_one_of_isSettled first settled)
    | some handle => exact .inr rfl
  · rintro (few | given)
    · exact course.isSettled_of_le_one few
    · obtain ⟨handle, first⟩ := Option.isSome_iff_exists.mp given
      exact course.isSettled_of_given first

/-- An engine that gives a handle from the second question on. -/
def hesitant : Nat → EngineAnswer
  | 0 => .value .null
  | _ => .value (.int 5)

theorem hesitant_gives (n : Nat) : (hesitant n).Gives (if n = 0 then none else some 5) := by
  cases n with
  | zero => exact .nothing
  | succ n => exact .number (by decide)

/-- Where the first question is answered, one question settles three times. -/
theorem resolveTimes_settled_at_once :
    let b : LazyHandle := { key := [.str "Node", .str "get_name"], asked := 1 }
    b.resolveTimes hesitant 3 =
        ({ b with asked := 2, handle := some 5 }, [.ok 5, .ok 5, .ok 5]) ∧
      b.IsSettled (some 5) (b.resolveTimes hesitant 3) := by
  intro b
  obtain ⟨-, unknown⟩ := resolveTimes_settled_iff hesitant_gives b 3
  exact ⟨rfl, (unknown rfl).2.mpr (.inr rfl)⟩

/-- An engine that has none to give at first is asked again, and the handle that it gives then is
returned. -/
theorem asked_again_after_refusal :
    let b : LazyHandle := { key := [.str "Node", .str "get_name", .int 1] }
    b.resolveTimes hesitant 2 = ({ b with asked := 2, handle := some 5 }, [b.refusal, .ok 5]) ∧
      ¬b.IsSettled none (b.resolveTimes hesitant 2) := by
  intro b
  have run : b.resolveTimes hesitant 2 =
      ({ b with asked := 2, handle := some 5 }, [b.refusal, .ok 5]) := rfl
  refine ⟨run, fun settled => ?_⟩
  have once := settled.asked
  rw [run] at once
  exact absurd once (by decide)

end LazyHandle

end EngineBindings
