import Mathlib.Algebra.Group.Nat.Defs
import Mathlib.Order.Nat
import Mathlib.Data.Nat.Find
import ModuleDepot.Repository.Http

/-! # Requests that are tried again

What an HTTP repository does with the replies it gets, whatever they are (`fetch_tries_again`): it
sends requests until a reply is conclusive or no attempt is left, waits before every one but the
first, and answers with what the last reply means.

The replies come from a script, which replies to one request after the other and keeps a record of
what it was made to do. The attempts consume the script as they count, so what is true of them is
true from any attempt on (`attempts_eq`).
-/

namespace ModuleDepot

namespace Http

/-- A reply that is worth another attempt. -/
def Reply.isInconclusive : Reply → Bool
  | .timedOut | .failed _ => true
  | .status code _ => isTransient code

/-- What a client is made to do. -/
inductive Action where
  | ask (url : Url)
  | wait (delay : Duration)
  deriving DecidableEq, Repr

/-- Replies in their order, how many of them were given, and what was done, oldest first. -/
structure Script where
  replies : Nat → Reply
  given : Nat := 0
  record : List Action := []

/-- The client that replies from a script. -/
def scripted : Client Script where
  ask u s := (s.replies s.given, { s with given := s.given + 1, record := s.record ++ [.ask u] })
  wait delay s := { s with record := s.record ++ [.wait delay] }

/-- The replies behind some that come earlier. -/
def behind (early : List Reply) (replies : Nat → Reply) (i : Nat) : Reply :=
  early[i]?.getD (replies (i - early.length))

theorem behind_of_lt {early : List Reply} {replies : Nat → Reply} {i : Nat}
    (h : i < early.length) : behind early replies i = early[i] := by
  simp [behind, h]

theorem behind_length (early : List Reply) (replies : Nat → Reply) :
    behind early replies early.length = replies 0 := by
  simp [behind]

end Http

namespace HttpRepository

open Http

variable {r : HttpRepository} {u : Url} {replies : Nat → Reply}

/-- What a reply means if it is the last one. -/
def finalAnswer (r : HttpRepository) (u : Url) : Reply → Answer
  | .timedOut => .unavailable s!"request to {u.text} timed out after {r.timeout.seconds}s"
  | .failed reason => .unavailable reason
  | .status code body =>
    if 200 ≤ code ∧ code < 300 then .found body
    else if code = 404 ∨ code = 410 then .notFound
    else .unavailable s!"GET request failed with status {statusText code}"

/-- Attempts in a row: a wait, unless the attempt is the very first, and a request. -/
def rounds (p : RetryPolicy) (u : Url) (first count : Nat) : List Action :=
  (List.range' first count).flatMap fun attempt =>
    (if attempt = 0 then [] else [.wait (p.waitBefore (UInt32.ofNat attempt))]) ++ [.ask u]

theorem rounds_one (p : RetryPolicy) (u : Url) (first : Nat) :
    rounds p u first 1 =
      (if first = 0 then [] else [.wait (p.waitBefore (UInt32.ofNat first))]) ++ [.ask u] :=
  List.append_nil _

theorem rounds_succ (p : RetryPolicy) (u : Url) (first count : Nat) :
    rounds p u first (count + 1) = rounds p u first 1 ++ rounds p u (first + 1) count := by
  rw [rounds_one, rounds, List.range'_succ, List.flatMap_cons]
  rfl

/-! ## One reply -/

/-- A status means what its class says, and only a transient one is judged to be no answer. -/
theorem judge_status (code : Nat) (body : ByteStream) :
    r.judge u (.status code body) =
      if isTransient code then .error s!"GET request failed with status {statusText code}"
      else .ok (r.finalAnswer u (.status code body)) := by
  have hsuccess : isSuccess code = true ↔ 200 ≤ code ∧ code < 300 := by simp [isSuccess]
  have habsent : isAbsent code = true ↔ code = 404 ∨ code = 410 := by simp [isAbsent]
  have htransient : isTransient code = true ↔ (500 ≤ code ∧ code < 600) ∨ code = 429 := by
    simp [isTransient]
  have hdistinct : isSuccess code = true ∨ isAbsent code = true → isTransient code = false := by
    rw [hsuccess, habsent, ← Bool.not_eq_true, htransient]
    omega
  simp only [judge, finalAnswer, ← hsuccess, ← habsent]
  split
  next h => rw [hdistinct (.inl h), if_neg Bool.false_ne_true]
  next =>
    split
    next h => rw [hdistinct (.inr h), if_neg Bool.false_ne_true]
    next => rfl

/-- A conclusive reply is judged to be an answer. -/
theorem judge_of_conclusive {reply : Reply} (h : reply.isInconclusive = false) :
    r.judge u reply = .ok (r.finalAnswer u reply) := by
  cases reply with
  | timedOut => cases h
  | failed => cases h
  | status code body =>
      have htransient : isTransient code = false := h
      rw [judge_status, htransient, if_neg Bool.false_ne_true]

/-- An inconclusive reply is judged to be a reason, which is the answer if it stays at that. -/
theorem judge_of_inconclusive {reply : Reply} (h : reply.isInconclusive = true) :
    ∃ reason, r.judge u reply = .error reason ∧
      r.finalAnswer u reply = .unavailable reason := by
  cases reply with
  | timedOut => exact ⟨_, rfl, rfl⟩
  | failed reason => exact ⟨reason, rfl, rfl⟩
  | status code body =>
      have htransient : isTransient code = true := h
      refine ⟨_, (judge_status code body).trans (if_pos htransient), ?_⟩
      have hclass : (500 ≤ code ∧ code < 600) ∨ code = 429 := by simpa [isTransient] using htransient
      simp only [finalAnswer]
      rw [if_neg (by omega), if_neg (by omega)]

/-! ## Attempts in a row -/

/-- The number of the last attempt, counted from `first`, when `left` attempts are left: no reply
before it is conclusive, and its own reply is, or there is no further attempt. -/
structure IsLast (replies : Nat → Reply) (first left last : Nat) : Prop where
  lt : last < left
  before : ∀ i < last, (replies (first + i)).isInconclusive = true
  ends : (replies (first + last)).isInconclusive = false ∨ last + 1 = left

theorem exists_isLast (replies : Nat → Reply) (first : Nat) {left : Nat} (h : 0 < left) :
    ∃ last, IsLast replies first left last := by
  have hends : ∃ last, (replies (first + last)).isInconclusive = false ∨ last + 1 = left :=
    ⟨left - 1, .inr (by omega)⟩
  refine ⟨Nat.find hends, ?_, fun i hi => ?_, Nat.find_spec hends⟩
  · have hle : Nat.find hends ≤ left - 1 := Nat.find_min' hends (.inr (by omega))
    omega
  · have hgoes := Nat.find_min hends hi
    simpa using (not_or.mp hgoes).1

/-- Behind an attempt that was not the last one the others count anew. -/
theorem IsLast.tail {first left last : Nat} (h : IsLast replies first (left + 1) (last + 1)) :
    (replies first).isInconclusive = true ∧ IsLast replies (first + 1) left last := by
  refine ⟨h.before 0 (Nat.succ_pos last), ⟨Nat.lt_of_succ_lt_succ h.lt, fun i hi => ?_, ?_⟩⟩
  · rw [Nat.add_assoc, Nat.add_comm 1]
    exact h.before (i + 1) (Nat.succ_lt_succ hi)
  · rw [Nat.add_assoc, Nat.add_comm 1]
    exact h.ends.imp_right Nat.succ.inj

/-- **What attempts come to**, from one of them on. -/
theorem attempts_eq {first left last : Nat} (h : IsLast replies first left last) (reason : String)
    (record : List Action) (events : List Event) :
    ∃ events', r.attempts scripted u left first reason ⟨replies, first, record⟩ events =
      (r.finalAnswer u (replies (first + last)),
        ⟨replies, first + last + 1, record ++ rounds r.retry u first (last + 1)⟩, events') := by
  induction left generalizing first last reason record events with
  | zero => exact absurd h.lt (Nat.not_lt_zero last)
  | succ left ih =>
      have hask : scripted.ask u (if first = 0 then ⟨replies, first, record⟩ else
          scripted.wait (r.retry.waitBefore (UInt32.ofNat first)) ⟨replies, first, record⟩) =
          (replies first, ⟨replies, first + 1, record ++ rounds r.retry u first 1⟩) := by
        rw [rounds_one]
        split <;> simp [scripted]
      unfold attempts
      extract_lets delay s events' events''
      rw [hask]
      dsimp only
      cases last with
      | zero =>
        change ∃ events', _ = (r.finalAnswer u (replies first), _, events')
        cases hreply : (replies first).isInconclusive with
        | false =>
            rw [judge_of_conclusive hreply]
            exact ⟨_, rfl⟩
        | true =>
            -- No attempt is left, and the reason stands.
            obtain ⟨reason', hjudge, hanswer⟩ := judge_of_inconclusive (r := r) (u := u) hreply
            obtain rfl : left = 0 := by
              rcases h.ends with hends | hends
              · cases hreply.symm.trans hends
              · exact (Nat.succ.inj hends).symm
            rw [hjudge, hanswer]
            exact ⟨_, rfl⟩
      | succ last =>
        obtain ⟨hreply, htail⟩ := h.tail
        obtain ⟨reason', hjudge, -⟩ := judge_of_inconclusive (r := r) (u := u) hreply
        rw [hjudge]
        dsimp only
        obtain ⟨events, heq⟩ := ih htail reason' _ _
        refine ⟨events, heq.trans ?_⟩
        rw [rounds_succ _ _ first (last + 1), List.append_assoc, Nat.add_right_comm first 1 last]
        rfl

/-! ## A fetch -/

/-- **A fetch tries again until a reply is conclusive.** Let the URL of a resource be readable as
`u`. Whatever the replies are, `u` is requested once and then once more for each inconclusive reply,
as long as the policy allows; the wait before a repetition is the one that the policy has for its
number. The answer is what the last reply means. So inconclusive replies in front of a conclusive
one change nothing in the answer, if they leave an attempt for it. -/
theorem fetch_tries_again (r : HttpRepository) (request : Request) (u : Url)
    (h : Url.parse (r.target request) = .ok u) :
    let most := min (r.retry.maxRetries.toNat + 1) (2 ^ 32 - 1)
    (∀ replies : Nat → Reply, ∃ last < most,
      (∀ i < last, (replies i).isInconclusive = true) ∧
      ((replies last).isInconclusive = false ∨ last + 1 = most) ∧
      (r.fetch scripted ⟨replies, 0, []⟩ request).1 = r.finalAnswer u (replies last) ∧
      (r.fetch scripted ⟨replies, 0, []⟩ request).2.1.record = rounds r.retry u 0 (last + 1)) ∧
    ∀ (early : List Reply) (replies : Nat → Reply),
      (∀ reply ∈ early, reply.isInconclusive = true) → early.length < most →
      (replies 0).isInconclusive = false →
      (r.fetch scripted ⟨behind early replies, 0, []⟩ request).1 =
        (r.fetch scripted ⟨replies, 0, []⟩ request).1 := by
  intro most
  have hmost : r.retry.attempts = most := rfl
  have hpos : 0 < most := by omega
  have hfetch : ∀ {replies : Nat → Reply} {last : Nat}, IsLast replies 0 most last →
      (r.fetch scripted ⟨replies, 0, []⟩ request).1 = r.finalAnswer u (replies last) ∧
      (r.fetch scripted ⟨replies, 0, []⟩ request).2.1.record =
        rounds r.retry u 0 (last + 1) := by
    intro replies last hlast
    obtain ⟨events, heq⟩ := attempts_eq (r := r) (u := u) hlast "" [] []
    rw [Nat.zero_add] at heq
    unfold fetch
    extract_lets target
    rw [h]
    dsimp only
    rw [hmost, heq]
    exact ⟨rfl, rfl⟩
  refine ⟨fun replies => ?_, fun early replies hearly hlength hreply => ?_⟩
  · obtain ⟨last, hlast⟩ := exists_isLast replies 0 hpos
    obtain ⟨hanswer, hrecord⟩ := hfetch hlast
    exact ⟨last, hlast.lt, fun i hi => by simpa using hlast.before i hi,
      by simpa using hlast.ends, hanswer, hrecord⟩
  · have hlast : IsLast (behind early replies) 0 most early.length := by
      refine ⟨hlength, fun i hi => ?_, .inl ?_⟩
      · rw [Nat.zero_add, behind_of_lt hi]
        exact hearly _ (List.getElem_mem hi)
      · rw [Nat.zero_add, behind_length, hreply]
    have hlast' : IsLast replies 0 most 0 :=
      ⟨hpos, fun i hi => absurd hi (Nat.not_lt_zero i), .inl hreply⟩
    rw [(hfetch hlast).1, (hfetch hlast').1, behind_length]

/-- A repository that is asked up to three times. -/
def patient : HttpRepository :=
  ofUrl "http://h"

theorem rounds_patient (u : Url) :
    rounds patient.retry u 0 3 = [.ask u, .wait (.ofMilliseconds 200), .ask u,
      .wait (.ofMilliseconds 400), .ask u] := by
  have hfirst : patient.retry.waitBefore (UInt32.ofNat 1) = .ofMilliseconds 200 := by
    decide +kernel
  have hsecond : patient.retry.waitBefore (UInt32.ofNat 2) = .ofMilliseconds 400 := by
    decide +kernel
  rw [rounds_succ, rounds_one, rounds_succ, rounds_one, rounds_one, hfirst, hsecond]
  rfl

/-- Behind a timeout and a status that may pass, the third reply is the answer. -/
theorem fetch_tries_again_twice :
    let request : Request := ⟨"m/", "x"⟩
    let early : List Reply := [.timedOut, .status 503 (.ofBytes [])]
    let replies : Nat → Reply := fun _ => .status 200 (.ofBytes [7])
    ∃ u, Url.parse (patient.target request) = .ok u ∧
      (patient.fetch scripted ⟨behind early replies, 0, []⟩ request).1 = .found (.ofBytes [7]) ∧
      (patient.fetch scripted ⟨behind early replies, 0, []⟩ request).1 =
        (patient.fetch scripted ⟨replies, 0, []⟩ request).1 ∧
      (patient.fetch scripted ⟨behind early replies, 0, []⟩ request).2.1.record =
        [.ask u, .wait (.ofMilliseconds 200), .ask u, .wait (.ofMilliseconds 400), .ask u] := by
  intro request early replies
  have hparse : (Url.parse (patient.target request)).toOption.isSome = true := by decide +kernel
  obtain ⟨u, hu⟩ : ∃ u, Url.parse (patient.target request) = .ok u := by
    cases hparsed : Url.parse (patient.target request) with
    | ok u => exact ⟨u, rfl⟩
    | error => simp [hparsed, Except.toOption] at hparse
  obtain ⟨hscripts, hearly⟩ := fetch_tries_again patient request u hu
  obtain ⟨last, hlast, -, hends, hanswer, hrecord⟩ := hscripts (behind early replies)
  obtain rfl : last = 2 := by
    rcases last with _ | _ | _ | more
    · exact absurd hends (by decide)
    · exact absurd hends (by decide)
    · rfl
    · exact absurd hlast (by simp [patient, ofUrl, create, RetryPolicy.standard])
  have hfound : patient.finalAnswer u (behind early replies 2) = .found (.ofBytes [7]) := rfl
  exact ⟨u, hu, hanswer.trans hfound, hearly early replies (by decide) (by decide) rfl,
    hrecord.trans (rounds_patient u)⟩

end HttpRepository
end ModuleDepot
