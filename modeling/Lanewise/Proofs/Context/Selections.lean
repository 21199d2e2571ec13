import Lanewise.Proofs.Ascending
import Lanewise.Proofs.Context.Change
import Mathlib.Data.Set.Card

namespace Lanewise

structure Selections where
  silencedLines : SilencedLines := .empty
  dumpStages : List UInt32 := []
  skipStages : List UInt32 := []

structure Selections.Within (first second : Selections) : Prop where
  silenced : ∀ line file, first.silencedLines.contains line file →
    second.silencedLines.contains line file
  dumps : first.dumpStages ⊆ second.dumpStages
  skips : first.skipStages ⊆ second.skipStages

namespace Context

variable {κ α : Type}

namespace Op

def line? : Op κ α → Option FileLine
  | silence line file => some (line, file)
  | _ => none

def dumpStage? : Op κ α → Option UInt32
  | dumpAfter stage => some stage
  | _ => none

def skipStage? : Op κ α → Option UInt32
  | leaveOut stage => some stage
  | _ => none

def addTo (selections : Selections) : Op κ α → Selections
  | silence line file =>
      { selections with silencedLines := selections.silencedLines.insert line file }
  | dumpAfter stage =>
      { selections with dumpStages := Stage.insert stage selections.dumpStages }
  | leaveOut stage =>
      { selections with skipStages := Stage.insert stage selections.skipStages }
  | _ => selections

end Op

/-! ## One of the sets -/

section Collects

variable {β γ : Type} [DecidableEq β] [LinearOrder γ] {get : Selections → List β}
  {pick : Op κ α → Option β} {adding : β → Op κ α} {key : β → γ} {b : β}

/-- A set takes in, in the order of a key, the element that an operation names for it. -/
structure Collects (get : Selections → List β) (pick : Op κ α → Option β) (adding : β → Op κ α)
    (key : β → γ) : Prop where
  injective : Function.Injective key
  fresh : get {} = []
  names : ∀ op b, pick op = some b ↔ op = adding b
  add : ∀ selections op, get (op.addTo selections) =
    (pick op).elim (get selections) fun b => Ascending.insert key b (get selections)

theorem collects_silencedLines : Collects (·.silencedLines.lines) (Op.line? : Op κ α → _)
    (fun line => .silence line.1 line.2) FileLine.key where
  injective := FileLine.key_injective
  fresh := rfl
  names op line := by cases op <;> simp [Op.line?, Prod.ext_iff]
  add selections op := by
    cases op with
    | silence line file => exact SilencedLines.insertLine_eq _ _
    | _ => rfl

theorem collects_stages {get : Selections → List UInt32} {pick : Op κ α → Option UInt32}
    {adding : UInt32 → Op κ α} (fresh : get {} = [])
    (names : ∀ op stage, pick op = some stage ↔ op = adding stage)
    (add : ∀ selections op, get (op.addTo selections) =
      (pick op).elim (get selections) fun stage => Stage.insert stage (get selections)) :
    Collects get pick adding UInt32.toNat where
  injective := Stage.toNat_injective
  fresh := fresh
  names := names
  add selections op := by
    rw [add]
    cases pick op with
    | none => rfl
    | some stage => exact Stage.insert_eq _ _

theorem collects_dumpStages :
    Collects (·.dumpStages) (Op.dumpStage? : Op κ α → _) .dumpAfter UInt32.toNat :=
  collects_stages rfl (fun op _ => by cases op <;> simp [Op.dumpStage?])
    fun _ op => by cases op <;> rfl

theorem collects_skipStages :
    Collects (·.skipStages) (Op.skipStage? : Op κ α → _) .leaveOut UInt32.toNat :=
  collects_stages rfl (fun op _ => by cases op <;> simp [Op.skipStage?])
    fun _ op => by cases op <;> rfl

theorem Collects.foldl (collects : Collects get pick adding key) (ops : List (Op κ α))
    (selections : Selections) : get (ops.foldl Op.addTo selections) =
      (ops.filterMap pick).foldl (fun set b => Ascending.insert key b set) (get selections) := by
  induction ops generalizing selections with
  | nil => rfl
  | cons op ops ih =>
      rw [List.foldl_cons, ih, collects.add]
      cases named : pick op with
      | none => rw [List.filterMap_cons_none named]; rfl
      | some b => rw [List.filterMap_cons_some named]; rfl

end Collects

variable [DecidableEq κ] [Hashable κ] {ctx : Context κ α} {op : Op κ α} {ops : List (Op κ α)}

def selections (ctx : Context κ α) : Selections where
  silencedLines := ctx.silencedLines
  dumpStages := ctx.dumpStages
  skipStages := ctx.skipStages

/-! ## What a run accepts -/

def accepted (ctx : Context κ α) (op : Op κ α) : List (Op κ α) :=
  match (ctx.step op).1.answer with
  | .done => [op]
  | _ => []

def acceptances (ctx : Context κ α) : List (Op κ α) → List (Op κ α)
  | [] => []
  | op :: rest => ctx.accepted op ++ acceptances (ctx.step op).2 rest

def Accepts (ctx : Context κ α) (ops : List (Op κ α)) (op : Op κ α) : Prop :=
  ∃ earlier later, ops = earlier ++ op :: later ∧
    ((ctx.run earlier).2.step op).1.answer = .done

theorem mem_accepted {other : Op κ α} :
    other ∈ ctx.accepted op ↔ other = op ∧ (ctx.step op).1.answer = .done := by
  unfold accepted
  cases (ctx.step op).1.answer <;> simp

theorem mem_acceptances : op ∈ ctx.acceptances ops ↔ ctx.Accepts ops op := by
  induction ops generalizing ctx with
  | nil => simp [acceptances, Accepts]
  | cons first rest ih =>
      rw [acceptances, List.mem_append, mem_accepted, ih]
      constructor
      · rintro (⟨rfl, done⟩ | ⟨earlier, later, rfl, done⟩)
        · exact ⟨[], rest, rfl, done⟩
        · exact ⟨first :: earlier, later, rfl, done⟩
      · rintro ⟨earlier, later, split, done⟩
        cases earlier with
        | nil =>
            obtain ⟨rfl, rfl⟩ := List.cons.inj split
            exact .inl ⟨rfl, done⟩
        | cons head earlier =>
            obtain ⟨rfl, rfl⟩ := List.cons.inj split
            exact .inr ⟨earlier, later, rfl, done⟩

/-! ## One step -/

theorem step_refused {failure : ContextFault}
    (refused : (ctx.step op).1.answer = .refused failure) :
    (ctx.step op).2 = ctx := by
  have settled (log : List LogRecord) (outcome : Except ContextFault (Context κ α))
      (refused : (ctx.settleStep log outcome).1.answer = .refused failure) :
      (ctx.settleStep log outcome).2 = ctx := by
    cases outcome with
    | error failure => rfl
    | ok next => cases refused
  cases op with
  | register kind object =>
      simp only [step] at refused ⊢
      split at refused
      · cases refused
      · rfl
  | reportPitfall kinds span message => cases refused
  | askIntrinsic name span =>
      simp only [step]
      split <;> rfl
  | tearDown => cases refused
  | _ => exact settled _ _ refused

theorem foldl_accepted_of_idle (idle : ∀ selections, op.addTo selections = selections)
    (selections : Selections) : (ctx.accepted op).foldl Op.addTo selections = selections := by
  unfold accepted
  split
  · exact idle selections
  · rfl

theorem selections_settleStep {log : List LogRecord}
    {outcome : Except ContextFault (Context κ α)}
    (settles : ctx.step op = ctx.settleStep log outcome)
    (adds : ∀ next, outcome = .ok next → next.selections = op.addTo ctx.selections) :
    (ctx.step op).2.selections = (ctx.accepted op).foldl Op.addTo ctx.selections := by
  rw [accepted, settles]
  cases outcome with
  | error failure => rfl
  | ok next => exact adds next rfl

theorem step_selections (ctx : Context κ α) (op : Op κ α) :
    (ctx.step op).2.selections = (ctx.accepted op).foldl Op.addTo ctx.selections := by
  have marked (kinds : Pitfalls) (next : Context κ α) (done : ctx.markReported kinds = .ok next) :
      next.selections = ctx.selections := by
    obtain ⟨_, _, _, rfl⟩ := (markReported_eq_ok ctx).1 done
    rfl
  -- An operation that is not settled adds nothing, so its answer does not matter.
  cases op with
  | configure edit =>
      refine selections_settleStep rfl fun next done => ?_
      rw [configure_eq] at done
      split at done <;> cases done
      rfl
  | editSwitches edit =>
      refine selections_settleStep rfl fun next done => ?_
      rw [editSwitches_eq] at done
      split at done <;> cases done
      rfl
  | activate request =>
      refine selections_settleStep rfl fun next done => ?_
      obtain ⟨_, _, _, _, _, rfl⟩ := (activate_eq_ok ctx).1 done
      rfl
  | register kind object =>
      rw [foldl_accepted_of_idle fun _ => rfl]
      simp only [step, register_eq]
      split
      · rename_i done
        split at done <;> cases done
        rfl
      · rfl
  | silence line file =>
      refine selections_settleStep rfl fun next done => ?_
      rw [silence_eq] at done
      split at done <;> cases done
      rfl
  | dumpAfter stage =>
      refine selections_settleStep rfl fun next done => ?_
      obtain ⟨-, -, rfl⟩ := (selectStage_eq_ok ctx).1 done
      rfl
  | leaveOut stage =>
      refine selections_settleStep rfl fun next done => ?_
      obtain ⟨-, -, rfl⟩ := (selectStage_eq_ok ctx).1 done
      rfl
  | reportPitfall kinds span message =>
      rw [foldl_accepted_of_idle fun _ => rfl]
      rcases ctx.reportPitfall_snd kinds span with same | done
      · exact congrArg _ same
      · exact marked kinds _ done
  | markReported kinds => exact selections_settleStep rfl (marked kinds)
  | askIntrinsic name span =>
      rw [foldl_accepted_of_idle fun _ => rfl]
      simp only [step]
      split <;> rfl
  | tearDown =>
      rw [foldl_accepted_of_idle fun _ => rfl]
      simp only [step, Context.tearDown]
      split <;> rfl

theorem run_selections (ctx : Context κ α) (ops : List (Op κ α)) :
    (ctx.run ops).2.selections = (ctx.acceptances ops).foldl Op.addTo ctx.selections := by
  induction ops generalizing ctx with
  | nil => rfl
  | cons op ops ih => rw [run_cons, ih, step_selections, acceptances, List.foldl_append]

/-! ## The sets of a run -/

namespace Collects

variable {β γ : Type} [DecidableEq β] [LinearOrder γ] {get : Selections → List β}
  {pick : Op κ α → Option β} {adding : β → Op κ α} {key : β → γ} {b : β}
  {host home : Host} {toolkit kit : Toolkit} {others : List (Op κ α)}
  (collects : Collects get pick adding key)
include collects

theorem step_of_none (other : pick op = none) :
    get (ctx.step op).2.selections = get ctx.selections := by
  rw [step_selections, collects.foldl, accepted]
  split <;> simp [other]

theorem mem_run_iff : b ∈ get (ctx.run ops).2.selections ↔
    b ∈ get ctx.selections ∨ ctx.Accepts ops (adding b) := by
  rw [run_selections, collects.foldl, Ascending.mem_foldl_insert, List.mem_filterMap]
  simp only [mem_acceptances, collects.names, exists_eq_right]

theorem get_new : get (new host toolkit : Context κ α).selections = [] := collects.fresh

theorem run_new_eq : get ((new host toolkit : Context κ α).run ops).2.selections =
    Ascending.setOf key (((new host toolkit).acceptances ops).filterMap pick) := by
  rw [run_selections, collects.foldl, collects.get_new, Ascending.setOf]

theorem mem_run_new_iff : b ∈ get ((new host toolkit : Context κ α).run ops).2.selections ↔
    (new host toolkit).Accepts ops (adding b) := by
  rw [collects.mem_run_iff, collects.get_new, or_iff_right List.not_mem_nil]

theorem run_new_congr (same : ∀ b, (new host toolkit).Accepts ops (adding b) ↔
      (new home kit).Accepts others (adding b)) :
    get ((new host toolkit : Context κ α).run ops).2.selections =
      get ((new home kit : Context κ α).run others).2.selections := by
  rw [collects.run_new_eq, collects.run_new_eq]
  refine Ascending.setOf_congr collects.injective fun b => ?_
  simpa only [collects.run_new_eq, Ascending.mem_setOf] using
    collects.mem_run_new_iff.trans ((same b).trans collects.mem_run_new_iff.symm)

theorem length_run_new : (get ((new host toolkit : Context κ α).run ops).2.selections).length =
    {b | (new host toolkit : Context κ α).Accepts ops (adding b)}.ncard := by
  simp only [← collects.mem_run_new_iff]
  rw [collects.run_new_eq, Ascending.length_setOf collects.injective, ← Set.ncard_coe_finset]
  congr 1
  ext b
  simp [Ascending.mem_setOf]

end Collects

theorem answer_silence (line : UInt32) (file : String) :
    (ctx.step (.silence line file)).1.answer =
      if ctx.phase = .tornDown then .refused (.wrongPhase .silencingWarnings .tornDown)
      else .done := by
  rw [step, silence_eq]
  split
  · rename_i ended
    rw [refusal, ended]
    rfl
  · rfl

theorem answer_selectStage (activity : Activity) (stage : UInt32) (selected : Context κ α) :
    (ctx.settleStep [] (ctx.selectStage activity stage selected)).1.answer =
      if ctx.phase = .tornDown then .refused (.wrongPhase activity .tornDown)
      else if stage.toNat ≤ 1000 then .done
      else .refused (.stageOutOfRange stage) := by
  have inside : stage ≤ Stage.last ↔ stage.toNat ≤ 1000 := UInt32.le_iff_toNat_le
  simp only [selectStage_eq, inside]
  split
  · rename_i ended
    rw [refusal, ended]
    rfl
  · split <;> rfl

theorem within_run (ctx : Context κ α) (later : List (Op κ α)) :
    ctx.selections.Within (ctx.run later).2.selections where
  silenced line file silenced := by
    rw [SilencedLines.contains, List.contains_iff_mem] at silenced ⊢
    exact collects_silencedLines.mem_run_iff.2 (.inl silenced)
  dumps _ member := collects_dumpStages.mem_run_iff.2 (.inl member)
  skips _ member := collects_skipStages.mem_run_iff.2 (.inl member)

theorem selections_recorded (host : Host) (toolkit : Toolkit) (ops : List (Op κ α)) :
    let start : Context κ α := new host toolkit
    let ctx := (start.run ops).2
    (∀ span, ctx.silences span ↔ ctx.settings.disableWarnings ∨
      start.Accepts ops (.silence span.first.line span.file)) ∧
    (∀ stage, ctx.dumpsAfter stage ↔ start.Accepts ops (.dumpAfter stage)) ∧
    (∀ stage, ctx.leavesOut stage ↔ start.Accepts ops (.leaveOut stage)) ∧
    ctx.silencedLines.size =
      {line : FileLine | start.Accepts ops (.silence line.1 line.2)}.ncard ∧
    (∀ line file, (ctx.step (.silence line file)).1.answer =
      if ctx.phase = .tornDown then .refused (.wrongPhase .silencingWarnings .tornDown)
      else .done) ∧
    (∀ stage, (ctx.step (.dumpAfter stage)).1.answer =
      if ctx.phase = .tornDown then .refused (.wrongPhase .selectingDumpStages .tornDown)
      else if stage.toNat ≤ 1000 then .done
      else .refused (.stageOutOfRange stage)) ∧
    (∀ stage, (ctx.step (.leaveOut stage)).1.answer =
      if ctx.phase = .tornDown then .refused (.wrongPhase .selectingSkippedStages .tornDown)
      else if stage.toNat ≤ 1000 then .done
      else .refused (.stageOutOfRange stage)) ∧
    (∀ op failure, (ctx.step op).1.answer = .refused failure → (ctx.step op).2 = ctx) ∧
    (∀ op, (op.line? = none → (ctx.step op).2.silencedLines = ctx.silencedLines) ∧
      (op.dumpStage? = none → (ctx.step op).2.dumpStages = ctx.dumpStages) ∧
      (op.skipStage? = none → (ctx.step op).2.skipStages = ctx.skipStages)) ∧
    (∀ later, ctx.selections.Within (ctx.run later).2.selections) ∧
    ∀ (home : Host) (kit : Toolkit) (others : List (Op κ α)),
      let again : Context κ α := new home kit
      let other := (again.run others).2
      ((∀ line file, start.Accepts ops (.silence line file) ↔
          again.Accepts others (.silence line file)) →
        ctx.silencedLines = other.silencedLines) ∧
      ((∀ stage, start.Accepts ops (.dumpAfter stage) ↔ again.Accepts others (.dumpAfter stage)) →
        ctx.dumpStages = other.dumpStages) ∧
      ((∀ stage, start.Accepts ops (.leaveOut stage) ↔ again.Accepts others (.leaveOut stage)) →
        ctx.skipStages = other.skipStages) := by
  intro start ctx
  have silences (span : Span) : ctx.silencedLines.covers span ↔
      start.Accepts ops (.silence span.first.line span.file) :=
    List.contains_iff_mem.trans collects_silencedLines.mem_run_new_iff
  refine ⟨fun span => ?_, fun stage => ?_, fun stage => ?_, collects_silencedLines.length_run_new,
    answer_silence, fun stage => answer_selectStage _ stage _,
    fun stage => answer_selectStage _ stage _, fun op failure => step_refused,
    fun op => ⟨?_, ?_, ?_⟩, ctx.within_run, fun home kit others => ⟨fun same => ?_, ?_, ?_⟩⟩
  · rw [Context.silences, Bool.or_eq_true, silences]
  · exact List.contains_iff_mem.trans collects_dumpStages.mem_run_new_iff
  · exact List.contains_iff_mem.trans collects_skipStages.mem_run_new_iff
  · exact fun other => congrArg SilencedLines.mk (collects_silencedLines.step_of_none other)
  · exact collects_dumpStages.step_of_none
  · exact collects_skipStages.step_of_none
  · exact congrArg SilencedLines.mk
      (collects_silencedLines.run_new_congr fun line => same line.1 line.2)
  · exact collects_dumpStages.run_new_congr
  · exact collects_skipStages.run_new_congr

end Context

end Lanewise
