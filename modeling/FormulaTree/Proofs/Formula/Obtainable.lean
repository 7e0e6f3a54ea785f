import FormulaTree.Proofs.Exec
import FormulaTree.Proofs.Formula.Pass
import FormulaTree.Proofs.Registry.Sound

set_option autoImplicit false

namespace FormulaTree

variable {σ : Type}

/-- What a changing function may rely on. -/
structure Visit.Sound (visit : Visit) : Prop where
  formula : visit.formula.Sound
  parent : ∀ parent, visit.parent = some parent → parent.Sound

namespace Formula

section closure

variable {formula result : Formula} {s s' : σ}

theorem tryRebuild_eq_ok
    {replace : Position → Formula → Formula → ExceptT Error (StateM σ) Formula}
    (run : exec (formula.tryRebuild replace) s = (.ok result, s')) :
    ∃ parts, formula.withParts parts = .ok result ∧
      List.Forall₂ (fun child part => ∃ s₁ s₂,
        exec (replace child.1 child.2 formula) s₁ = (.ok part, s₂)) formula.children parts := by
  rw [tryRebuild, replaceParts_eq] at run
  obtain ⟨parts, s₁, asked, run⟩ := exec_bind_eq_ok run
  rw [exec_ofExcept] at run
  exact ⟨parts, (Prod.mk.inj run).1, exec_mapM_eq_ok asked⟩

theorem sound_of_forall₂ {parts : List Formula} {step : Position × Formula → Formula → Prop}
    (h : formula.Sound) (made : formula.withParts parts = .ok result)
    (asked : List.Forall₂ step formula.children parts)
    (answers : ∀ child ∈ formula.children, ∀ part, step child part → part.Sound) :
    result.Sound := by
  refine sound_of_withParts h asked.length_eq.symm (fun part mem => ?_) made
  obtain ⟨child, child_mem, answer⟩ := exists_of_forall₂ asked part mem
  exact answers child child_mem part answer

theorem sound_of_tryRebuild
    {replace : Position → Formula → Formula → ExceptT Error (StateM σ) Formula}
    (h : formula.Sound)
    (answers : ∀ child ∈ formula.children, ∀ s part s',
      exec (replace child.1 child.2 formula) s = (.ok part, s') → part.Sound)
    (run : exec (formula.tryRebuild replace) s = (.ok result, s')) : result.Sound := by
  obtain ⟨parts, made, asked⟩ := tryRebuild_eq_ok run
  refine sound_of_forall₂ h made asked ?_
  rintro child mem part ⟨s₁, s₂, answer⟩
  exact answers child mem s₁ part s₂ answer

theorem sound_of_rebuild
    {replace : Position → Formula → Formula → ExceptT Error (StateM σ) (Option Formula)}
    (h : formula.Sound)
    (answers : ∀ child ∈ formula.children, ∀ s part s',
      exec (replace child.1 child.2 formula) s = (.ok (some part), s') → part.Sound)
    (run : exec (formula.rebuild replace) s = (.ok result, s')) : result.Sound := by
  refine sound_of_tryRebuild h (fun child mem s part s' answer => ?_) run
  obtain ⟨found, s₁, asked, given⟩ := exec_bind_eq_ok answer
  cases found with
  | none => simp at given
  | some replacement =>
    obtain rfl : replacement = part := by simpa using (Prod.mk.inj given).1
    exact answers child mem s replacement s₁ asked

theorem sound_of_rewrite {change : Visit → ExceptT Error (StateM σ) Formula}
    (answers : ∀ visit, visit.Sound → ∀ s answer s',
      exec (change visit) s = (.ok answer, s') → answer.Sound)
    (h : formula.Sound) {address : List Position} {parent : Option Formula}
    (above : ∀ other, parent = some other → other.Sound)
    (run : exec (formula.rewrite change address parent) s = (.ok result, s')) : result.Sound := by
  induction h generalizing address parent s s' result with
  | intro formula shape keyed parts ih =>
    have sound : formula.Sound := .intro formula shape keyed parts
    rw [rewrite_eq] at run
    obtain ⟨parts, s₁, asked, run⟩ := exec_bind_eq_ok run
    obtain ⟨current, s₂, made, run⟩ := exec_bind_eq_ok run
    rw [exec_ofExcept] at made
    have current_sound : current.Sound := by
      refine sound_of_forall₂ sound (Prod.mk.inj made).1 (exec_mapM_eq_ok asked) ?_
      rintro child mem part ⟨s₁, s₂, answer⟩
      refine ih child mem (fun other same => ?_) answer
      cases same
      exact sound
    exact answers _ ⟨current_sound, above⟩ s₂ result s' run

end closure

inductive Obtainable : Formula → Prop where
  | constant {value : Value} (keyed : value.Keyed) : Obtainable (.constant value)
  | symbol (name : String) : Obtainable (.symbol name)
  | assignment {target value formula : Formula} (ht : Obtainable target) (hv : Obtainable value)
      (checked : checkedAssignment target value = .ok formula) : Obtainable formula
  | assignTo (name : String) {value : Formula} (hv : Obtainable value) :
      Obtainable (assignTo name value)
  | block {statements : List (Formula × Bool)} {formula : Formula}
      (hs : ∀ entry ∈ statements, Obtainable entry.1)
      (checked : checkedBlock statements = .ok formula) : Obtainable formula
  | operation {op function : String} {operands : List Formula} {formula : Formula}
      (ho : ∀ operand ∈ operands, Obtainable operand)
      (checked : checkedOperation op function operands = .ok formula) : Obtainable formula
  | unary (op function : String) {operand : Formula} (ho : Obtainable operand) :
      Obtainable (unary op function operand)
  | binary (op function : String) {left right : Formula} (hl : Obtainable left)
      (hr : Obtainable right) : Obtainable (binary op function left right)
  | parenthesis {content : Formula} (hc : Obtainable content) : Obtainable (.parenthesis content)
  | call (function : String) {arguments : List Formula}
      (ha : ∀ argument ∈ arguments, Obtainable argument) : Obtainable (.call function arguments)
  | conditional {conditions blocks : List Formula} {formula : Formula}
      (hc : ∀ condition ∈ conditions, Obtainable condition)
      (hb : ∀ block ∈ blocks, Obtainable block)
      (checked : checkedConditional conditions blocks = .ok formula) : Obtainable formula
  | part {formula : Formula} {child : Position × Formula} (h : Obtainable formula)
      (mem : child ∈ formula.children) : Obtainable child.2
  | decode {registry : Registry} {json : Json} {formula : Formula} (builtIn : registry.BuiltIn)
      (keyed : json.Keyed) (decoded : registry.decode json = .ok formula) : Obtainable formula
  | decodeTagged {registry : Registry} {tag : String} {json : Json} {formula : Formula}
      (builtIn : registry.BuiltIn) (keyed : json.Keyed)
      (decoded : registry.decodeTagged tag json = .ok formula) : Obtainable formula
  | decodeText {registry : Registry} {codec : Json.Codec} {text : String} {formula : Formula}
      (builtIn : registry.BuiltIn) (keyed : codec.ReadsKeyed)
      (decoded : registry.decodeText codec text = .ok formula) : Obtainable formula
  | tryRebuild {σ : Type} {s s' : σ} {formula result : Formula}
      {replace : Position → Formula → Formula → ExceptT Error (StateM σ) Formula}
      (h : Obtainable formula)
      (answers : ∀ child ∈ formula.children, ∀ s part s',
        exec (replace child.1 child.2 formula) s = (.ok part, s') → Obtainable part)
      (run : exec (formula.tryRebuild replace) s = (.ok result, s')) : Obtainable result
  | rebuild {σ : Type} {s s' : σ} {formula result : Formula}
      {replace : Position → Formula → Formula → ExceptT Error (StateM σ) (Option Formula)}
      (h : Obtainable formula)
      (answers : ∀ child ∈ formula.children, ∀ s part s',
        exec (replace child.1 child.2 formula) s = (.ok (some part), s') → Obtainable part)
      (run : exec (formula.rebuild replace) s = (.ok result, s')) : Obtainable result
  /-- The changing function answers with obtainable formulas wherever it is called on sound ones. -/
  | transform {σ : Type} {s s' : σ} {formula result : Formula}
      {change : Visit → ExceptT Error (StateM σ) Formula} (h : Obtainable formula)
      (answers : ∀ visit, visit.Sound → ∀ s answer s',
        exec (change visit) s = (.ok answer, s') → Obtainable answer)
      (run : exec (formula.transform change) s = (.ok result, s')) : Obtainable result

theorem Obtainable.sound {formula : Formula} (h : Obtainable formula) : formula.Sound := by
  induction h with
  | constant keyed => exact sound_constant_iff.2 keyed
  | symbol name => exact sound_symbol name
  | assignment _ _ checked ht hv =>
    obtain ⟨rfl, shape⟩ := checkedAssignment_shape checked
    exact sound_assignment_iff.2 ⟨shape, ht, hv⟩
  | assignTo name _ hv => exact sound_assignment_iff.2 ⟨rfl, sound_symbol name, hv⟩
  | block _ checked hs =>
    obtain ⟨rfl, shape⟩ := checkedBlock_shape checked
    exact sound_block_iff.2 ⟨shape, hs⟩
  | operation _ checked ho =>
    obtain ⟨rfl, shape⟩ := checkedOperation_shape checked
    exact sound_operation_iff.2 ⟨shape, ho⟩
  | unary op function _ ho => exact sound_operation_iff.2 ⟨by simp, by simpa using ho⟩
  | binary op function _ _ hl hr => exact sound_operation_iff.2 ⟨by simp, by simp [hl, hr]⟩
  | parenthesis _ hc => exact sound_parenthesis_iff.2 hc
  | call function _ ha => exact sound_call_iff.2 ha
  | conditional _ _ checked hc hb =>
    obtain ⟨rfl, shape⟩ := checkedConditional_shape checked
    exact sound_conditional_iff.2 ⟨shape, hc, hb⟩
  | part _ mem h => exact h.parts _ mem
  | decode builtIn keyed decoded => exact Registry.sound_of_decode builtIn keyed decoded
  | decodeTagged builtIn keyed decoded => exact Registry.sound_of_decodeTagged builtIn keyed decoded
  | decodeText builtIn keyed decoded => exact Registry.sound_of_decodeText builtIn keyed decoded
  | tryRebuild _ _ run h answers => exact sound_of_tryRebuild h answers run
  | rebuild _ _ run h answers => exact sound_of_rebuild h answers run
  | transform _ _ run h answers =>
    unfold Formula.transform at run
    rw [transformAt_eq_rewrite h.wellFormed] at run
    exact sound_of_rewrite answers h (fun other same => by cases same) run

theorem Sound.obtainable {formula : Formula} (h : formula.Sound) : Obtainable formula := by
  induction h with
  | intro formula shape keyed parts ih =>
    have mem_parts {part : Formula} (mem : part ∈ formula.children.map Prod.snd) :
        Obtainable part := by
      obtain ⟨child, child_mem, rfl⟩ := List.mem_map.1 mem
      exact ih child child_mem
    have made := withParts_children shape
    cases formula with
    | constant value => exact .constant keyed
    | symbol name => exact .symbol name
    | assignment target value =>
      exact .assignment (mem_parts (by simp [children])) (mem_parts (by simp [children])) made
    | block statements =>
      simp only [children, map_snd_numbered] at mem_parts
      refine .block (fun entry mem => mem_parts (List.mem_map_of_mem mem)) ?_
      exact if_neg (by simpa [Shape] using shape)
    | operation op function operands =>
      simp only [children, map_snd_numbered] at mem_parts
      exact .operation (fun operand mem => mem_parts mem) (if_pos shape)
    | parenthesis content => exact .parenthesis (mem_parts (by simp [children]))
    | call function arguments =>
      simp only [children, map_snd_numbered] at mem_parts
      exact .call function fun argument mem => mem_parts mem
    | conditional conditions blocks =>
      have same := branches_perm 0 shape.2
      refine .conditional
        (fun condition mem => mem_parts (same.mem_iff.2 (List.mem_append_left _ mem)))
        (fun block mem => mem_parts (same.mem_iff.2 (List.mem_append_right _ mem))) ?_
      simpa [withParts, children, unbraid_children shape.2] using made

theorem obtainable_iff_sound {formula : Formula} : Obtainable formula ↔ formula.Sound :=
  ⟨Obtainable.sound, Sound.obtainable⟩

end Formula

end FormulaTree
