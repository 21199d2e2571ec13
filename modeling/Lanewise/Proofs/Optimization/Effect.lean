import Lanewise.Config.Basic
import Lanewise.Proofs.Latest
import Lanewise.Proofs.Optimization

namespace Lanewise

namespace Switches

variable {opt next : Switches} {names others : List String} {name : String} {flag : OptFlag}

/-! ## What names ask for -/

def addressingNames : List String := ["addressing=32", "addressing=64"]

def addressing? (name : String) : Option Bool :=
  if name = "addressing=32" then some true
  else if name = "addressing=64" then some false
  else none

def lastAddressing? (names : List String) : Option Bool := (names.filterMap addressing?).getLast?

/-- The switches that names ask for, told from the names alone. -/
def asked (opt : Switches) (names : List String) : Switches where
  level := opt.level
  fastMath := opt.fastMath || names.contains "fast-math"
  fastMaskedVload := opt.fastMaskedVload || names.contains "fast-masked-vload"
  unrollLoops := opt.unrollLoops && !names.contains "disable-loop-unroll"
  force32BitAddressing := (lastAddressing? names).getD opt.force32BitAddressing
  disableAsserts := opt.disableAsserts || names.contains "disable-assertions"
  disableGathers := opt.disableGathers || names.contains "disable-gathers"
  disableScatters := opt.disableScatters || names.contains "disable-scatters"
  disableFma := opt.disableFma || names.contains "disable-fma"
  forceAlignedMemory := opt.forceAlignedMemory || names.contains "force-aligned-memory"
  enableLoadStoreVectorizer := opt.enableLoadStoreVectorizer ||
    (names.contains "enable-ldst-vectorizer" || names.contains "enable-load-store-vectorizer")
  enableSlpVectorizer := opt.enableSlpVectorizer || names.contains "enable-slp-vectorizer"
  disableMaskAllOnOptimizations :=
    opt.disableMaskAllOnOptimizations || names.contains "disable-mask-all-on-optimizations"
  disableHandlePseudoMemoryOps :=
    opt.disableHandlePseudoMemoryOps || names.contains "disable-handle-pseudo-memory-ops"
  disableBlendedMaskedStores :=
    opt.disableBlendedMaskedStores || names.contains "disable-blended-masked-stores"
  disableCoherentControlFlow :=
    opt.disableCoherentControlFlow || names.contains "disable-coherent-control-flow"
  disableUniformControlFlow :=
    opt.disableUniformControlFlow || names.contains "disable-uniform-control-flow"
  disableGatherScatterOptimizations :=
    opt.disableGatherScatterOptimizations || names.contains "disable-gather-scatter-optimizations"
  disableMaskedStoreToStore :=
    opt.disableMaskedStoreToStore || names.contains "disable-masked-store-to-store"
  disableGatherScatterFlattening :=
    opt.disableGatherScatterFlattening || names.contains "disable-gather-scatter-flattening"
  disableUniformMemoryOptimizations :=
    opt.disableUniformMemoryOptimizations || names.contains "disable-uniform-memory-optimizations"
  disableCoalescing := opt.disableCoalescing || names.contains "disable-coalescing"
  disableZmm := opt.disableZmm || names.contains "disable-zmm"
  resetFtzDaz := opt.resetFtzDaz || names.contains "reset-ftz-daz"

def respell (name : String) : String :=
  if name = "enable-load-store-vectorizer" then "enable-ldst-vectorizer" else name

structure SameFlags (names others : List String) : Prop where
  listed : ∀ name ∉ addressingNames,
    name ∈ names.map respell ↔ name ∈ others.map respell
  lastAddressing : lastAddressing? names = lastAddressing? others

/-! ## Switches by their flags -/

theorem ext_shows (level : opt.level = next.level)
    (addressing : opt.force32BitAddressing = next.force32BitAddressing)
    (shows : ∀ flag : OptFlag, flag.isLasting → opt.shows flag = next.shows flag) : opt = next := by
  cases opt
  cases next
  rw [mk.injEq]
  exact ⟨level, shows .fastMath rfl, shows .fastMaskedVload rfl,
    Bool.not_inj (shows .disableLoopUnroll rfl), addressing, shows .disableAssertions rfl,
    shows .disableGathers rfl, shows .disableScatters rfl, shows .disableFma rfl,
    shows .forceAlignedMemory rfl, shows .enableLdstVectorizer rfl, shows .enableSlpVectorizer rfl,
    shows .disableMaskAllOnOptimizations rfl, shows .disableHandlePseudoMemoryOps rfl,
    shows .disableBlendedMaskedStores rfl, shows .disableCoherentControlFlow rfl,
    shows .disableUniformControlFlow rfl, shows .disableGatherScatterOptimizations rfl,
    shows .disableMaskedStoreToStore rfl, shows .disableGatherScatterFlattening rfl,
    shows .disableUniformMemoryOptimizations rfl, shows .disableCoalescing rfl,
    shows .disableZmm rfl, shows .resetFtzDaz rfl⟩

theorem level_withFlags (opt : Switches) (names : List String) :
    (opt.withFlags names).level = opt.level := by
  unfold withFlags
  induction names generalizing opt with
  | nil => rfl
  | cons name names ih =>
      rw [List.foldl_cons, ih, withFlag_eq]
      cases OptFlag.ofName? name with
      | none => rfl
      | some flag => cases flag <;> rfl

theorem force32BitAddressing_withFlag (opt : Switches) (name : String) :
    (opt.withFlag name).force32BitAddressing =
      (addressing? name).getD opt.force32BitAddressing := by
  rw [withFlag_eq]
  unfold addressing?
  split
  · rename_i same
    subst same
    rfl
  · rename_i narrow
    split
    · rename_i same
      subst same
      rfl
    · rename_i wide
      -- No other name stands for a flag of addressing.
      cases named : OptFlag.ofName? name with
      | none => rfl
      | some flag =>
          have spelled := OptFlag.ofName?_eq_some_iff.1 named
          cases flag with
          | addressing32 => exact absurd (List.mem_singleton.1 spelled) narrow
          | addressing64 => exact absurd (List.mem_singleton.1 spelled) wide
          | _ => rfl

theorem force32BitAddressing_withFlags (opt : Switches) (names : List String) :
    (opt.withFlags names).force32BitAddressing =
      (lastAddressing? names).getD opt.force32BitAddressing := by
  let held (opt : Switches) : Option Bool := some opt.force32BitAddressing
  have held_step (opt : Switches) (name : String) :
      held (opt.withFlag name) = (addressing? name).or (held opt) := by
    rw [Option.or_some]
    exact congrArg some (force32BitAddressing_withFlag opt name)
  have latest := foldl_latest held_step names opt
  rw [Option.or_some] at latest
  exact Option.some.inj latest

/-! ## Lists of names -/

theorem shows_asked (lasting : flag.isLasting) (opt : Switches) (names : List String) :
    (opt.asked names).shows flag ↔
      opt.shows flag ∨ ∃ name ∈ names, OptFlag.ofName? name = some flag := by
  simp only [OptFlag.ofName?_eq_some_iff]
  cases flag with
  | addressing32 | addressing64 => cases lasting
  | enableLdstVectorizer =>
      simp [shows, asked, OptFlag.name, OptFlag.unlistedNames, and_or_left, exists_or]
  | _ => simp [shows, asked, OptFlag.name, OptFlag.unlistedNames]

theorem withFlags_eq_asked (opt : Switches) (names : List String) :
    opt.withFlags names = opt.asked names := by
  refine ext_shows (level_withFlags opt names) (force32BitAddressing_withFlags opt names) ?_
  intro flag lasting
  rw [Bool.eq_iff_iff, shows_withFlags lasting, shows_asked lasting]

theorem ofName?_respell (name : String) :
    OptFlag.ofName? (respell name) = OptFlag.ofName? name := by
  unfold respell
  split
  · rename_i same
    subst same
    rfl
  · rfl

theorem exists_of_addressing (addresses : name ∈ addressingNames) :
    ∃ flag, OptFlag.ofName? name = some flag ∧ ¬flag.isLasting := by
  simp only [addressingNames, List.mem_cons, List.not_mem_nil, or_false] at addresses
  rcases addresses with rfl | rfl
  · exact ⟨.addressing32, by decide, by decide⟩
  · exact ⟨.addressing64, by decide, by decide⟩

theorem not_addressing_of_lasting (lasting : flag.isLasting)
    (named : OptFlag.ofName? name = some flag) : name ∉ addressingNames := by
  intro addresses
  obtain ⟨other, named', passing⟩ := exists_of_addressing addresses
  obtain rfl : other = flag := Option.some.inj (named'.symm.trans named)
  exact passing lasting

theorem SameFlags.symm (same : SameFlags names others) : SameFlags others names :=
  ⟨fun name other => (same.listed name other).symm, same.lastAddressing.symm⟩

theorem SameFlags.exists_of (same : SameFlags names others) (lasting : flag.isLasting) :
    (∃ name ∈ names, OptFlag.ofName? name = some flag) →
      ∃ name ∈ others, OptFlag.ofName? name = some flag := by
  rintro ⟨name, listed, named⟩
  rw [← ofName?_respell] at named
  obtain ⟨other, listed', respelled⟩ := List.mem_map.1
    ((same.listed _ (not_addressing_of_lasting lasting named)).1 (List.mem_map_of_mem listed))
  exact ⟨other, listed', by rw [← ofName?_respell, respelled, named]⟩

theorem SameFlags.accepts (same : SameFlags names others)
    (accepted : ∀ name ∈ names, opt.accepts name) : ∀ name ∈ others, opt.accepts name := by
  intro name listed
  rw [accepts_eq, ← ofName?_respell]
  by_cases addresses : respell name ∈ addressingNames
  · obtain ⟨flag, named, -⟩ := exists_of_addressing addresses
    rw [named]
    rfl
  · obtain ⟨other, listed', respelled⟩ :=
      List.mem_map.1 ((same.listed _ addresses).2 (List.mem_map_of_mem listed))
    rw [← respelled, ofName?_respell, ← accepts_eq]
    exact accepted other listed'

theorem SameFlags.withFlags_eq (same : SameFlags names others) (opt : Switches) :
    opt.withFlags others = opt.withFlags names := by
  refine ext_shows ?_ ?_ fun flag lasting => ?_
  · rw [level_withFlags, level_withFlags]
  · rw [force32BitAddressing_withFlags, force32BitAddressing_withFlags, same.lastAddressing]
  · rw [Bool.eq_iff_iff, shows_withFlags lasting, shows_withFlags lasting]
    exact or_congr_right ⟨same.symm.exists_of lasting, same.exists_of lasting⟩

theorem sameFlags_twice (names : List String) : SameFlags names (names ++ names) where
  listed name _ := by simp
  lastAddressing := by
    unfold lastAddressing?
    rw [List.filterMap_append, List.getLast?_append, Option.or_self]

theorem withFlags_twice (opt : Switches) (names : List String) :
    (opt.withFlags names).withFlags names = opt.withFlags names :=
  calc (opt.withFlags names).withFlags names
    _ = opt.withFlags (names ++ names) := List.foldl_append.symm
    _ = opt.withFlags names := (sameFlags_twice names).withFlags_eq opt

/-! ## Lists that fail -/

theorem setFlags_eq_ok : opt.setFlags names = .ok next ↔
    (∀ name ∈ names, opt.accepts name) ∧ opt.withFlags names = next := by
  rw [setFlags_eq, elim_eq_ok, Except.ok.injEq, List.find?_eq_none]
  simp

theorem setFlags_eq_error {failure : TargetFault} : opt.setFlags names = .error failure ↔
    ∃ before name after, names = before ++ name :: after ∧
      (∀ earlier ∈ before, opt.accepts earlier) ∧ ¬opt.accepts name ∧
      failure = .unknownOptFlag name := by
  rw [setFlags_eq, elim_eq_error]
  simp only [List.find?_eq_some_iff_append, reduceCtorEq, and_false, or_false, Bool.not_not,
    Bool.not_eq_true', Bool.not_eq_true]
  constructor
  · rintro ⟨name, ⟨refused, before, after, split, accepted⟩, rfl⟩
    exact ⟨before, name, after, split, accepted, refused, rfl⟩
  · rintro ⟨before, name, after, split, accepted, refused, rfl⟩
    exact ⟨name, ⟨refused, before, after, split, accepted⟩, rfl⟩

theorem exists_setFlags_eq_error :
    (∃ failure, opt.setFlags names = .error failure) ↔ ∃ name ∈ names, ¬opt.accepts name := by
  cases outcome : opt.setFlags names with
  | ok next =>
      refine iff_of_false (by simp) ?_
      rintro ⟨name, listed, refused⟩
      exact refused ((setFlags_eq_ok.1 outcome).1 name listed)
  | error failure =>
      obtain ⟨before, name, after, rfl, -, refused, -⟩ := setFlags_eq_error.1 outcome
      exact iff_of_true ⟨failure, rfl⟩ ⟨name, List.mem_append_right _ List.mem_cons_self, refused⟩

theorem setFlags_twice (opt : Switches) (names : List String) :
    (opt.setFlags names >>= fun next => next.setFlags names) = opt.setFlags names := by
  cases outcome : opt.setFlags names with
  | error failure => rfl
  | ok next =>
      obtain ⟨accepted, rfl⟩ := setFlags_eq_ok.1 outcome
      simp only [accepts_eq] at accepted
      rw [ok_bind, setFlags_eq_ok]
      exact ⟨by simpa only [accepts_eq] using accepted, withFlags_twice opt names⟩

theorem setFlags_decided (opt : Switches) (names : List String) :
    (∀ name, opt.accepts name ↔ ∃ flag : OptFlag, name ∈ flag.name :: flag.unlistedNames) ∧
    (∀ name, ¬opt.accepts name →
      opt.setFlag name = .error (.unknownOptFlag name) ∧
        (opt.setFlag name).toOption.getD opt = opt) ∧
    ((∃ failure, opt.setFlags names = .error failure) ↔ ∃ name ∈ names, ¬opt.accepts name) ∧
    (∀ failure, opt.setFlags names = .error failure ↔
      ∃ before name after, names = before ++ name :: after ∧
        (∀ earlier ∈ before, opt.accepts earlier) ∧ ¬opt.accepts name ∧
        failure = .unknownOptFlag name) ∧
    ((∀ name ∈ names, opt.accepts name) → opt.setFlags names = .ok (opt.asked names) ∧
      ∀ others, SameFlags names others → opt.setFlags others = opt.setFlags names) ∧
    (opt.setFlags names >>= fun next => next.setFlags names) = opt.setFlags names ∧
    ∀ config : Config, config.opt = opt → config.codegen.optFlags = names →
      config.effectiveSwitches = opt.setFlags names := by
  refine ⟨fun name => ?_, fun name refused => ?_, exists_setFlags_eq_error,
    fun failure => setFlags_eq_error, fun accepted => ⟨?_, ?_⟩, setFlags_twice opt names, ?_⟩
  · rw [accepts_eq, Option.isSome_iff_exists]
    simp only [OptFlag.ofName?_eq_some_iff]
  · rw [accepts_eq, Option.not_isSome_iff_eq_none] at refused
    rw [setFlag, refused]
    exact ⟨rfl, rfl⟩
  · rw [setFlags_of_accepts accepted, withFlags_eq_asked]
  · intro others same
    rw [setFlags_of_accepts accepted, setFlags_of_accepts (same.accepts accepted),
      same.withFlags_eq]
  · rintro config rfl rfl
    rfl

end Switches

end Lanewise
