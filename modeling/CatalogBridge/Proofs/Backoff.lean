import CatalogBridge.Backoff
import Mathlib.Algebra.GroupWithZero.Nat
import Mathlib.Data.List.DropRight

/-!
# Delays in closed form

A backoff multiplies the last delay and cuts the product twice: to what a duration
can express, and to the greatest delay of its pace. Neither cut leaves a trace. The
delay of every step is the initial delay times a power of the multiplier, in numbers
without bounds, cut once to the greatest delay.

* `Backoff.streak` is how many delays were taken since the start or the last
  success, and `Pace.nth` the delay after so many.
* `Pace.grow_nth` says that growing a delay is going to the next one.
* `after_eq` is the backoff after any steps, and `delay_of_streak` reads the delays
  of a sequence of steps off it.
-/

namespace CatalogBridge

/-- What a duration can express. -/
def Duration.Expressible (delay : Duration) : Prop := delay.nanos ≤ longest.nanos

instance (delay : Duration) : Decidable delay.Expressible :=
  inferInstanceAs (Decidable (delay.nanos ≤ Duration.longest.nanos))

namespace Pace

/-- The delay after so many delays in a row. The first one is the initial delay, and the pace
bounds only the others. -/
def nth (pace : Pace) (count : Nat) : Duration :=
  if count = 0 then pace.initial
  else .min ⟨pace.initial.nanos * pace.multiplier ^ count⟩ pace.longest

@[simp] theorem nth_zero (pace : Pace) : pace.nth 0 = pace.initial := if_pos rfl

/-- Cutting a product to what a duration can express does not show. -/
theorem grow_eq {pace : Pace} (hlongest : pace.longest.Expressible) (delay : Duration) :
    pace.grow delay = .min ⟨delay.nanos * pace.multiplier⟩ pace.longest := by
  have hbound : pace.longest.nanos ≤ Duration.longest.nanos := hlongest
  have hnanos : (pace.grow delay).nanos
      = (Duration.min ⟨delay.nanos * pace.multiplier⟩ pace.longest).nanos := by
    rw [grow, Duration.min_nanos, Duration.min_nanos]
    show Nat.min (min (delay.nanos * pace.multiplier) Duration.longest.nanos) pace.longest.nanos
      = Nat.min (delay.nanos * pace.multiplier) pace.longest.nanos
    have hcut : min (min (delay.nanos * pace.multiplier) Duration.longest.nanos)
        pace.longest.nanos = min (delay.nanos * pace.multiplier) pace.longest.nanos := by omega
    exact hcut
  exact congrArg Duration.mk hnanos

/-- A delay that was cut stays at the bound, unless the multiplier is zero. -/
theorem min_mul_min (product bound multiplier : Nat) :
    min (min product bound * multiplier) bound = min (product * multiplier) bound := by
  rcases Nat.eq_zero_or_pos multiplier with rfl | hpos
  · rw [Nat.mul_zero, Nat.mul_zero]
  · rcases Nat.le_total product bound with hle | hge
    · rw [Nat.min_eq_left hle]
    · have hbound : bound ≤ bound * multiplier := Nat.le_mul_of_pos_right bound hpos
      have hproduct : bound ≤ product * multiplier :=
        Nat.le_trans hge (Nat.le_mul_of_pos_right product hpos)
      rw [Nat.min_eq_right hge, Nat.min_eq_right hbound, Nat.min_eq_right hproduct]

/-- Growing a delay is going to the next one. -/
theorem grow_nth {pace : Pace} (hlongest : pace.longest.Expressible) (count : Nat) :
    pace.grow (pace.nth count) = pace.nth (count + 1) := by
  rw [grow_eq hlongest, nth, nth, if_neg (Nat.succ_ne_zero count), Nat.pow_succ, ← Nat.mul_assoc]
  split
  · rename_i hzero
    rw [hzero, Nat.pow_zero, Nat.mul_one]
  · -- The delay before was cut to the bound of the pace, and so is the next one.
    have hnanos : (Duration.min ⟨(Duration.min ⟨pace.initial.nanos * pace.multiplier ^ count⟩
        pace.longest).nanos * pace.multiplier⟩ pace.longest).nanos
          = (Duration.min ⟨pace.initial.nanos * pace.multiplier ^ count * pace.multiplier⟩
            pace.longest).nanos := by
      rw [Duration.min_nanos, Duration.min_nanos, Duration.min_nanos]
      exact min_mul_min _ _ _
    exact congrArg Duration.mk hnanos

end Pace

namespace Backoff

/-! ## Sequences of steps -/

/-- How many delays were taken since the start or the last success. -/
def streak (steps : List Step) : Nat := (steps.rtakeWhile (· = .next)).length

@[simp] theorem streak_concat_next (steps : List Step) :
    streak (steps ++ [.next]) = streak steps + 1 := by
  rw [streak, List.rtakeWhile_concat_pos _ _ _ (by decide), List.length_append]
  rfl

@[simp] theorem streak_concat_reset (steps : List Step) : streak (steps ++ [.reset]) = 0 := by
  rw [streak, List.rtakeWhile_concat_neg _ _ _ (by decide)]
  rfl

/-- A backoff after a step. -/
def advance (backoff : Backoff) : Step → Backoff
  | .next => backoff.next.2
  | .reset => backoff.reset

/-- A backoff after several steps. -/
def after (backoff : Backoff) (steps : List Step) : Backoff := steps.foldl advance backoff

theorem after_concat (backoff : Backoff) (steps : List Step) (step : Step) :
    after backoff (steps ++ [step]) = (after backoff steps).advance step :=
  List.foldl_concat ..

/-- After any steps the next delay is that of the streak. -/
theorem after_eq {pace : Pace} (hlongest : pace.longest.Expressible) (steps : List Step) :
    after (start pace) steps = ⟨pace, pace.nth (streak steps)⟩ := by
  induction steps using List.reverseRecOn with
  | nil => rfl
  | append_singleton steps step ih =>
    rw [after_concat, ih]
    cases step with
    | next =>
      rw [streak_concat_next, ← Pace.grow_nth hlongest]
      rfl
    | reset =>
      rw [streak_concat_reset, Pace.nth_zero]
      rfl

theorem delays_append (backoff : Backoff) (front back : List Step) :
    backoff.delays (front ++ back) = backoff.delays front ++ (after backoff front).delays back := by
  induction front generalizing backoff with
  | nil => rfl
  | cons step rest ih => cases step <;> exact congrArg _ (ih _)

@[simp] theorem length_delays (backoff : Backoff) (steps : List Step) :
    (backoff.delays steps).length = steps.length := by
  induction steps generalizing backoff with
  | nil => rfl
  | cons step rest ih => cases step <;> exact congrArg (· + 1) (ih _)

/-- A delay that comes after so many others in a row is the initial delay times the power of the
multiplier, cut to the greatest delay of the pace; the first one is the initial delay. -/
theorem delay_of_streak (pace : Pace) (hlongest : pace.longest.Expressible)
    (earlier later : List Step) :
    ((start pace).delays (earlier ++ .next :: later))[earlier.length]? = some (some
      (if streak earlier = 0 then pace.initial
        else .min ⟨pace.initial.nanos * pace.multiplier ^ streak earlier⟩ pace.longest)) := by
  have hplace : ((start pace).delays earlier).length ≤ earlier.length :=
    Nat.le_of_eq (length_delays _ _)
  rw [delays_append, List.getElem?_append_right hplace, length_delays, Nat.sub_self,
    after_eq hlongest]
  rfl

-- The initial delay may be above the greatest one, and a multiplier of zero leaves no delay.
example : (start ⟨.ofSeconds 9, .ofSeconds 5, 1⟩).delays [.next, .next, .reset, .next]
    = [some (.ofSeconds 9), some (.ofSeconds 5), none, some (.ofSeconds 9)] := by
  decide

/-- The third product of this pace is beyond every duration, so its fourth delay in a row is the
greatest one. -/
theorem delay_of_streak_saturated :
    Duration.longest.Expressible ∧
      ((start ⟨.ofSeconds 3, .longest, 4294967295⟩).delays
        ([.next, .reset, .next, .next, .next] ++ .next :: [.reset]))[5]?
          = some (some .longest) := by
  refine ⟨Nat.le_refl _, ?_⟩
  have hdelay := delay_of_streak ⟨.ofSeconds 3, .longest, 4294967295⟩ (Nat.le_refl _)
    [.next, .reset, .next, .next, .next] [.reset]
  exact hdelay.trans (by decide +kernel)

end Backoff

end CatalogBridge
