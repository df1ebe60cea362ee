import Mathlib
import Stencil.Proofs.Evaluation.Reading
import Stencil.Proofs.Evaluation.Requests
import Stencil.Proofs.Evaluation.Splicing

/-!
# The discipline of an evaluation

An evaluation uses as many iterations as it was granted, and it says that the budget is used up if
it was refused one; however often that happens, it says so once. What it found around it, it puts
back.
-/

namespace Stencil

open Context

/-- Whether a notice says that the loop budget is used up. -/
def Notice.isBudgetNotice : Notice → Bool
  | .budgetExhausted _ => true
  | _ => false

theorem Notice.not_isBudgetNotice_of_isRemark {n : Notice} (h : n.isRemark = true) :
    n.isBudgetNotice = false := by
  cases n <;> first | rfl | cases h

namespace Context

/-- How often it was said that the loop budget is used up. -/
def budgetNotices (c : Context) : Nat := c.log.countP Notice.isBudgetNotice

theorem budgetNotices_noteAll {ns : List Notice} (h : ∀ n ∈ ns, n.isBudgetNotice = false)
    (c : Context) : (c.noteAll ns).budgetNotices = c.budgetNotices := by
  have hNone : ns.countP Notice.isBudgetNotice = 0 := by
    rw [List.countP_eq_zero]
    intro n hn
    simp [h n hn]
  simp [budgetNotices, noteAll, hNone]

/-- What has become of the budget after some requests. -/
structure Accounted (before : Context) (requests : List Context) (after : Context) : Prop where
  /-- As many iterations are used as were granted. -/
  iterations : after.iterations = before.iterations + requests.countP (·.consume.1)
  /-- It is on record whether one was ever refused. -/
  reported : after.budgetReported = (before.budgetReported || requests.any (!·.consume.1))
  /-- There is a new notice if and only if that was not on record before. -/
  noticed : after.budgetNotices + before.budgetReported.toNat =
    before.budgetNotices + after.budgetReported.toNat
  within : before.iterations ≤ before.limits.maxIterations →
    after.iterations ≤ after.limits.maxIterations

theorem Accounted.trans {c d e : Context} {requests more : List Context}
    (h : Accounted c requests d) (h' : Accounted d more e) : Accounted c (requests ++ more) e where
  iterations := by
    have hFirst := h.iterations
    have hSecond := h'.iterations
    rw [List.countP_append]
    omega
  reported := by rw [h'.reported, h.reported, List.any_append, Bool.or_assoc]
  noticed := by
    have hFirst := h.noticed
    have hSecond := h'.noticed
    omega
  within hc := h'.within (h.within hc)

theorem accounted_noteAll {ns : List Notice} (h : ∀ n ∈ ns, n.isBudgetNotice = false)
    (c : Context) : Accounted c [] (c.noteAll ns) where
  iterations := rfl
  reported := (Bool.or_false c.budgetReported).symm
  noticed := by
    rw [budgetNotices_noteAll h]
    rfl
  within hc := hc

/-- A refusal is put on record and said, if that was not done before. -/
theorem accounted_consume (c : Context) : Accounted c [c] c.consume.2 := by
  -- Only a refusal that is not on record yet changes the record and the log, and it changes both.
  by_cases hLe : c.limits.maxIterations ≤ c.iterations
  · have hAnswer : c.consume = (false, c.refused) := consume_of_le hLe
    rw [hAnswer]
    constructor
    · simp [hAnswer]
    · rw [refused]
      cases hReported : c.budgetReported <;> simp [hAnswer, hReported]
    · rw [refused]
      cases hReported : c.budgetReported
      · simp [budgetNotices, note, List.countP_cons, Notice.isBudgetNotice]
      · simp [hReported]
    · intro hc
      rw [refused]
      split <;> exact hc
  · have hAnswer : c.consume = (true, { c with iterations := c.iterations + 1 }) :=
      consume_of_lt (Nat.lt_of_not_le hLe)
    rw [hAnswer]
    constructor
    · simp [hAnswer]
    · simp [hAnswer]
    · rfl
    · intro _
      exact Nat.lt_of_not_le hLe

/-- The requests tell what an action does to the budget. -/
def Accounts {α : Type} (asked : Requests) (a : Action α) : Prop :=
  ∀ c : Context, Accounted c (asked c) (a c).2

variable {α β : Type} {asked : Requests} {a : Action α}

theorem accounts_reading {ns : List Notice} (h : ∀ n ∈ ns, n.isRemark = true) (f : Context → α) :
    Accounts .silent (reading f ns) :=
  accounted_noteAll fun n hn => Notice.not_isBudgetNotice_of_isRemark (h n hn)

theorem accounts_give (x : α) : Accounts .silent (give x) :=
  accounted_noteAll (List.forall_mem_nil _)

theorem accounts_consume : Accounts (fun c => [c]) consume := accounted_consume

theorem accounts_andThen {next : α → Action β} {more : α → Requests} (h : Accounts asked a)
    (hNext : ∀ x, Accounts (more x) (next x)) :
    Accounts (asked.andThen a more) (andThen a next) :=
  fun c => (h c).trans (hNext (a c).1 (a c).2)

/-- Making something of the answer asks for nothing more. -/
theorem accounts_map (h : Accounts asked a) (f : α → β) :
    Accounts asked (andThen a fun x => give (f x)) := by
  have hMore := accounts_andThen h fun x => accounts_give (f x)
  have hSame : (asked.andThen a fun _ => .silent) = asked := by
    funext c
    simp [Requests.andThen, Requests.silent]
  rwa [hSame] at hMore

theorem accounts_withScope (h : Accounts asked a) (frame : List (String × Json)) :
    Accounts (asked.withScope frame) (withScope frame a) := by
  intro c
  have hInside := h { c with scopes := frame :: c.scopes }
  exact ⟨hInside.iterations, hInside.reported, hInside.noticed, hInside.within⟩

theorem accounts_descend {a : Action (Option α)} (h : Accounts asked a) :
    Accounts asked.descend (descend a) := by
  intro c
  rw [Requests.descend]
  split
  · next hLe =>
    rw [descend_of_le hLe]
    exact accounted_noteAll (List.forall_mem_singleton.2 rfl) c
  · next hLe =>
    have hInside := h { c with depth := c.depth + 1 }
    rw [descend_of_lt (Nat.lt_of_not_le hLe)]
    exact ⟨hInside.iterations, hInside.reported, hInside.noticed, hInside.within⟩

end Context

theorem Source.accounts (s : Source) : Accounts .silent s.evaluate := by
  rw [s.evaluate_eq]
  exact accounts_reading (fun n hn => isRemark_of_mem hn) _

theorem Source.accounts_test (s : Source) : Accounts .silent s.test := by
  rw [s.test_eq]
  exact accounts_map s.accounts _

theorem Interpolation.accounts (content : Interpolation) : Accounts .silent content.evaluate := by
  rw [content.evaluate_eq]
  exact accounts_reading (fun n hn => isRemark_of_mem hn) _

theorem Node.accounts_evaluateBranch {branch : Option Node}
    (h : ∀ n ∈ branch, Accounts n.requests n.evaluate) :
    Accounts (branchRequests branch) (evaluateBranch branch) := by
  cases branch with
  | none =>
    rw [evaluateBranch_none]
    exact accounts_give none
  | some node =>
    rw [evaluateBranch_some]
    exact h node rfl

namespace Loop

/-- Each iteration is one request, and behind a refused one there are no more. -/
theorem accounts_iterate {body : Action (Option Json)} {asked : Requests}
    (h : Accounts asked body) (binding : String) (length index : Nat) (elements : List Json) :
    Accounts (iterateRequests binding length body asked index elements)
      (iterate binding length body index elements) := by
  induction elements generalizing index with
  | nil =>
    rw [iterate_nil]
    exact accounts_give []
  | cons element rest ih =>
    rw [iterate_cons, iterateRequests_cons]
    apply accounts_andThen accounts_consume
    intro granted
    cases granted with
    | false => exact accounts_give []
    | true =>
      rw [if_pos rfl, if_pos rfl]
      apply accounts_andThen (accounts_withScope h _)
      intro v
      exact accounts_map (ih (index + 1)) fun vs => v.toList ++ vs

theorem accounts_overNothing {empty : Option Node}
    (h : ∀ n ∈ empty, Accounts n.requests n.evaluate) (binding : String) (v : Json) :
    Accounts (Requests.silent.andThen (reading (fun _ => ()) (collectionNotices binding v))
      fun _ => Node.branchRequests empty) (overNothing binding empty v) := by
  apply accounts_andThen (accounts_reading (fun n hn => isRemark_of_mem hn) _)
  intro _
  exact accounts_map (Node.accounts_evaluateBranch h) LoopResult.empty

theorem accounts_runOver {body : Node} {empty : Option Node}
    (hBody : Accounts body.requests body.evaluate)
    (hEmpty : ∀ n ∈ empty, Accounts n.requests n.evaluate) (binding : String) (v : Json) :
    Accounts (requestsOver binding body empty v) (runOver binding body empty v) := by
  cases v with
  | array items =>
    cases items with
    | nil => exact accounts_overNothing hEmpty binding (.array [])
    | cons element rest =>
      exact accounts_map (accounts_iterate hBody binding _ 0 (element :: rest)) LoopResult.items
  | _ => exact accounts_overNothing hEmpty binding _

theorem accounts_evaluate {l : Loop} (hBody : ∀ n ∈ l.body, Accounts n.requests n.evaluate)
    (hEmpty : ∀ n ∈ l.empty, Accounts n.requests n.evaluate) : Accounts l.requests l.evaluate := by
  rcases l.complete_or_missing with ⟨binding, collection, body, empty, rfl⟩ | hMissing
  · rw [evaluate_complete, requests_complete]
    exact accounts_andThen collection.accounts (accounts_runOver (hBody body rfl) hEmpty binding)
  · rw [evaluate_incomplete hMissing, requests_incomplete hMissing]
    exact accounts_reading (by simp [Notice.isRemark]) _

end Loop

theorem Conditional.accounts_evaluate {k : Conditional}
    (hThen : ∀ n ∈ k.thenBranch, Accounts n.requests n.evaluate)
    (hElse : ∀ n ∈ k.elseBranch, Accounts n.requests n.evaluate) :
    Accounts k.requests k.evaluate := by
  obtain ⟨condition, thenBranch, elseBranch⟩ := k
  rw [evaluate_eq, requests_eq]
  apply accounts_andThen condition.accounts_test
  intro holds
  cases holds with
  | false => exact Node.accounts_evaluateBranch hElse
  | true => exact Node.accounts_evaluateBranch hThen

namespace Node

theorem accounts_evaluateEntries {entries : List (String × Node)}
    (h : ∀ e ∈ entries, Accounts e.2.requests e.2.evaluate) :
    Accounts (entriesRequests entries) (evaluateEntries entries) := by
  induction entries with
  | nil =>
    rw [evaluateEntries_nil]
    exact accounts_give []
  | cons e rest ih =>
    have hRest := ih fun e he => h e (List.mem_cons_of_mem _ he)
    rw [evaluateEntries_cons, entriesRequests_cons]
    apply accounts_andThen (h e List.mem_cons_self)
    intro v
    exact accounts_map hRest fun ms => (e.1, v.getD .null) :: ms

/-- The items of an array ask for what they ask for by themselves. -/
theorem accounts_evaluateItems {items : List Node}
    (h : ∀ item ∈ items, Accounts item.requests item.evaluate) :
    Accounts (itemsRequests items) (evaluateItems items) := by
  induction items with
  | nil =>
    rw [evaluateItems_nil]
    exact accounts_give []
  | cons item rest ih =>
    have hRest := ih fun x hx => h x (List.mem_cons_of_mem _ hx)
    have hHere := accounts_map (h item List.mem_cons_self) item.joined
    rw [evaluateItems_cons, contribute_eq_joined, itemsRequests_cons]
    exact accounts_andThen hHere fun here => accounts_map hRest fun vs => here ++ vs

theorem accounts (node : Node) : Accounts node.requests node.evaluate := by
  induction node with
  | literal v =>
    -- A literal asks for nothing, which is also nothing one level down.
    rw [evaluate_literal, requests, ← Requests.descend_silent]
    exact accounts_descend (accounts_give _)
  | text content =>
    rw [evaluate_text, requests, ← Requests.descend_silent]
    exact accounts_descend (accounts_map content.accounts _)
  | object entries ih =>
    rw [evaluate_object, requests_object]
    exact accounts_descend (accounts_map (accounts_evaluateEntries ih) _)
  | array items ih =>
    rw [evaluate_array, requests_array]
    exact accounts_descend (accounts_map (accounts_evaluateItems ih) _)
  | loop binding collection body empty ihBody ihEmpty =>
    have hLoop : Accounts (Loop.requests ⟨binding, collection, body, empty⟩) _ :=
      Loop.accounts_evaluate ihBody ihEmpty
    rw [evaluate_loop, requests_loop]
    exact accounts_descend (accounts_map hLoop _)
  | conditional condition thenBranch elseBranch ihThen ihElse =>
    rw [evaluate_conditional, requests_conditional]
    exact accounts_descend (Conditional.accounts_evaluate ihThen ihElse)

end Node

theorem Loop.accounts (l : Loop) : Accounts l.requests l.evaluate :=
  accounts_evaluate (fun n _ => n.accounts) fun n _ => n.accounts

theorem Conditional.accounts (k : Conditional) : Accounts k.requests k.evaluate :=
  accounts_evaluate (fun n _ => n.accounts) fun n _ => n.accounts

namespace Context

variable {α : Type} {asked : Requests} {a : Action α}

/-- What has to be true of a context after an evaluation that it was within the budget before. -/
structure Keeps (before after : Context) : Prop where
  root : after.root = before.root
  limits : after.limits = before.limits
  scopes : after.scopes = before.scopes
  depth : after.depth = before.depth
  iterations_le : before.iterations ≤ after.iterations
  within : after.iterations ≤ before.limits.maxIterations

/-- What has to be true of an evaluation from its start. -/
structure WarnsOnce (asked : Requests) (a : Action α) (data : Json) (limits : Limits) : Prop where
  count_le_one : (a (.start data limits)).2.notices.countP Notice.isBudgetNotice ≤ 1
  exists_iff : (∃ n ∈ (a (.start data limits)).2.notices, n.isBudgetNotice = true) ↔
    ∃ d ∈ asked (.start data limits), d.consume.1 = false
  iterations : (a (.start data limits)).2.iterations =
    (asked (.start data limits)).countP (·.consume.1)

theorem Accounts.keeps (h : Accounts asked a) [Steady a] {c : Context}
    (hc : c.iterations ≤ c.limits.maxIterations) : c.Keeps (a c).2 := by
  have hSame := surroundings_after a c
  simp only [surroundings, Surroundings.mk.injEq] at hSame
  obtain ⟨hRoot, hLimits, hScopes, hDepth⟩ := hSame
  have hWithin := (h c).within hc
  rw [hLimits] at hWithin
  exact ⟨hRoot, hLimits, hScopes, hDepth, (usage_grows a c).iterations, hWithin⟩

theorem Accounts.warnsOnce (h : Accounts asked a) (data : Json) (limits : Limits) :
    WarnsOnce asked a data limits := by
  have hRun := h (.start data limits)
  have hCount : (a (.start data limits)).2.notices.countP Notice.isBudgetNotice =
      (a (.start data limits)).2.budgetReported.toNat := by
    have hNoticed := hRun.noticed
    rw [notices, List.countP_reverse]
    simpa [start, budgetNotices] using hNoticed
  have hReported : (a (.start data limits)).2.budgetReported =
      (asked (.start data limits)).any (!·.consume.1) := by
    rw [hRun.reported]
    rfl
  constructor
  · rw [hCount]
    exact Bool.toNat_le _
  · rw [← List.countP_pos_iff, hCount, hReported]
    cases hAny : (asked (.start data limits)).any (!·.consume.1) with
    | false => simpa using hAny
    | true => simpa using hAny
  · rw [hRun.iterations]
    exact Nat.zero_add _

/-- Whatever an evaluation gives, it puts back what it found around it and stays within the budget.
From its start on it says that the budget is used up at most once, and says so if and only if it
was refused an iteration. -/
theorem keeps_and_warnsOnce :
    (∀ c : Context, c.iterations ≤ c.limits.maxIterations →
      (∀ node : Node, c.Keeps (node.evaluate c).2) ∧
      (∀ l : Loop, c.Keeps (l.evaluate c).2) ∧
      ∀ k : Conditional, c.Keeps (k.evaluate c).2) ∧
    ∀ (data : Json) (limits : Limits),
      (∀ node : Node, WarnsOnce node.requests node.evaluate data limits) ∧
      (∀ l : Loop, WarnsOnce l.requests l.evaluate data limits) ∧
      ∀ k : Conditional, WarnsOnce k.requests k.evaluate data limits := by
  refine ⟨fun c h => ⟨?_, ?_, ?_⟩, fun data limits => ⟨?_, ?_, ?_⟩⟩
  · exact fun node => node.accounts.keeps h
  · exact fun l => l.accounts.keeps h
  · exact fun k => k.accounts.keeps h
  · exact fun node => node.accounts.warnsOnce data limits
  · exact fun l => l.accounts.warnsOnce data limits
  · exact fun k => k.accounts.warnsOnce data limits

/-- Inside a loop, two levels down, with one iteration left of three. -/
def insideLoop : Context where
  root := .object [("items", .array [.string "a", .string "b"])]
  limits := ⟨128, 3⟩
  scopes := [[("x", .null)]]
  depth := 2
  iterations := 2
  budgetReported := false
  log := []

end Context

/-- An array of two loops that copy what is in `items`. -/
def Node.copyTwice : Node :=
  let copy : Node := .loop ⟨.name "y", some (.path ⟨["items"]⟩),
    some (.text (.pure ⟨⟨["y"]⟩, [], "y", []⟩)), none⟩
  .array [copy, copy]

/-- The budget ends in the first loop, the second one is refused as well, and it is said once. -/
theorem Context.keeps_and_warnsOnce_insideLoop :
    let run := Node.copyTwice.evaluate insideLoop
    insideLoop.iterations ≤ insideLoop.limits.maxIterations ∧ insideLoop.Keeps run.2 ∧
      run.1 = some (.array [.string "a"]) ∧ run.2.iterations = 3 ∧
      WarnsOnce Node.copyTwice.requests Node.copyTwice.evaluate insideLoop.root ⟨128, 1⟩ ∧
      (Node.copyTwice.evaluate (.start insideLoop.root ⟨128, 1⟩)).2.notices =
        [.budgetExhausted 1] := by
  have hWithin : insideLoop.iterations ≤ insideLoop.limits.maxIterations := by decide
  obtain ⟨hKeeps, hWarns⟩ := keeps_and_warnsOnce
  have hHere := (hKeeps insideLoop hWithin).1 Node.copyTwice
  refine ⟨hWithin, hHere, by cbv, by decide +kernel, ?_, by cbv⟩
  exact (hWarns insideLoop.root ⟨128, 1⟩).1 Node.copyTwice

end Stencil
