import Lanewise.Optimization
import Lanewise.Proofs.Except
import Lanewise.Proofs.Names

namespace Lanewise

namespace OptFlag

variable {text : String} {flag : OptFlag}

theorem mem_all (flag : OptFlag) : flag ∈ all := by
  cases flag <;> decide

theorem names_apart : (all.flatMap fun flag => flag.name :: flag.unlistedNames).Nodup := by decide

theorem ofName?_eq_some_iff :
    ofName? text = some flag ↔ text ∈ flag.name :: flag.unlistedNames := by
  have answers_iff (flag : OptFlag) :
      (flag.name == text || flag.unlistedNames.contains text) ↔
        text ∈ flag.name :: flag.unlistedNames := by
    rw [Bool.or_eq_true, beq_iff_eq, List.contains_iff_mem, List.mem_cons, eq_comm]
  rw [ofName?, find?_eq_some_iff_of_apart names_apart answers_iff]
  exact and_iff_right (mem_all flag)

/-- Whether no other flag undoes what a flag does. The two flags of addressing undo each other. -/
def isLasting : OptFlag → Bool
  | addressing32 | addressing64 => false
  | _ => true

end OptFlag

namespace Switches

variable {opt next : Switches} {names : List String} {flag : OptFlag}

def accepts (opt : Switches) (name : String) : Bool := (opt.setFlag name).isOk

theorem accepts_eq (opt : Switches) (name : String) :
    opt.accepts name = (OptFlag.ofName? name).isSome := by
  unfold accepts setFlag
  cases OptFlag.ofName? name <;> rfl

def withFlag (opt : Switches) (name : String) : Switches :=
  (opt.setFlag name).toOption.getD opt

theorem withFlag_eq (opt : Switches) (name : String) :
    opt.withFlag name = ((OptFlag.ofName? name).map (OptFlag.apply opt)).getD opt := by
  unfold withFlag setFlag
  cases OptFlag.ofName? name <;> rfl

def withFlags (opt : Switches) (names : List String) : Switches :=
  names.foldl withFlag opt

theorem setFlags_eq (opt : Switches) (names : List String) :
    opt.setFlags names =
      (names.find? (!opt.accepts ·)).elim (.ok (opt.withFlags names))
        fun name => .error (.unknownOptFlag name) := by
  refine foldlM_checked id withFlag (!opt.accepts ·) _ (fun opt' name => ?_) names opt
  rw [accepts_eq, id, setFlag, withFlag_eq]
  cases OptFlag.ofName? name <;> rfl

theorem setFlags_of_accepts (accepted : ∀ name ∈ names, opt.accepts name) :
    opt.setFlags names = .ok (opt.withFlags names) := by
  rw [setFlags_eq, List.find?_eq_none.2 (by simpa using accepted), Option.elim_none]

def shows (opt : Switches) : OptFlag → Bool
  | .fastMath => opt.fastMath
  | .fastMaskedVload => opt.fastMaskedVload
  | .disableLoopUnroll => !opt.unrollLoops
  | .forceAlignedMemory => opt.forceAlignedMemory
  | .disableAssertions => opt.disableAsserts
  | .disableFma => opt.disableFma
  | .disableGathers => opt.disableGathers
  | .disableScatters => opt.disableScatters
  | .disableBlendedMaskedStores => opt.disableBlendedMaskedStores
  | .disableCoherentControlFlow => opt.disableCoherentControlFlow
  | .disableUniformControlFlow => opt.disableUniformControlFlow
  | .disableGatherScatterOptimizations => opt.disableGatherScatterOptimizations
  | .disableMaskedStoreToStore => opt.disableMaskedStoreToStore
  | .disableGatherScatterFlattening => opt.disableGatherScatterFlattening
  | .disableUniformMemoryOptimizations => opt.disableUniformMemoryOptimizations
  | .disableCoalescing => opt.disableCoalescing
  | .disableZmm => opt.disableZmm
  | .disableHandlePseudoMemoryOps => opt.disableHandlePseudoMemoryOps
  | .disableMaskAllOnOptimizations => opt.disableMaskAllOnOptimizations
  | .enableLdstVectorizer => opt.enableLoadStoreVectorizer
  | .enableSlpVectorizer => opt.enableSlpVectorizer
  | .resetFtzDaz => opt.resetFtzDaz
  | .addressing32 => opt.force32BitAddressing
  | .addressing64 => !opt.force32BitAddressing

theorem shows_apply_self (opt : Switches) (flag : OptFlag) :
    (OptFlag.apply opt flag).shows flag := by
  cases flag <;> rfl

theorem shows_apply_other (lasting : flag.isLasting) {other : OptFlag} (differs : other ≠ flag) :
    (OptFlag.apply opt other).shows flag = opt.shows flag := by
  cases flag <;> cases other <;> first | rfl | contradiction

theorem shows_withFlag (lasting : flag.isLasting) (opt : Switches) (name : String) :
    (opt.withFlag name).shows flag ↔ opt.shows flag ∨ OptFlag.ofName? name = some flag := by
  rw [withFlag_eq]
  cases named : OptFlag.ofName? name with
  | none => simp
  | some other =>
      by_cases same : other = flag
      · subst same
        simp [shows_apply_self]
      · simp [shows_apply_other lasting same, same]

theorem shows_withFlags (lasting : flag.isLasting) (opt : Switches) (names : List String) :
    (opt.withFlags names).shows flag ↔
      opt.shows flag ∨ ∃ name ∈ names, OptFlag.ofName? name = some flag := by
  unfold withFlags
  induction names generalizing opt with
  | nil => simp
  | cons name names ih =>
      rw [List.foldl_cons, ih, shows_withFlag lasting]
      simp [or_assoc]

end Switches

end Lanewise
