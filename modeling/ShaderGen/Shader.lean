import Mathlib

/-!
# The emitted shaders and what they compute

The texture encoders (`VideoCommon/TextureConversionShader.cpp`) write HLSL text
one `sprintf` at a time.  Every piece they write is modelled as a `Line`: its
exact text, and the `Op` it performs when the pixel shader runs — nothing for a
declaration, a brace or the signature; a simultaneous assignment of scalar
components for a statement; the opening, `else` and closing of an `if`.

The statements are evaluated with exact arithmetic and exact `floor`, over any
ordered field with a floor (`ℚ` to run them, `ℝ` for the real numbers): the
theorems about the encoders are about the arithmetic the text spells out, not
about `float` rounding.  Float literals denote the decimal they print.

## Main definitions

* `Var`, `Comp` — the shader's variables and their four components (`x y z w`,
  also read `r g b a`); `Regs` holds a value for every component.
* `Expr`, `Op`, `Line` — the statements the encoders write.
* `Inputs` — what a run reads from outside: the two `I_COLORS` constants and the
  sampler `samp0`, a function from texture coordinates to a texel.
* `Exec`, `execOps`, `runShader` — running the lines' statements on one pixel.
-/

namespace ShaderGen

/-- A vector component. -/
inductive Comp
  | x | y | z | w
  deriving DecidableEq, Repr

namespace Comp

/-- `r` names the component `x`. -/
abbrev r : Comp := .x
/-- `g` names the component `y`. -/
abbrev g : Comp := .y
/-- `b` names the component `z`. -/
abbrev b : Comp := .z
/-- `a` names the component `w`. -/
abbrev a : Comp := .w

/-- The components in order. -/
@[simp] def all : List Comp := [.x, .y, .z, .w]

/-- The colour letter a swizzle writes for the component. -/
def letter : Comp → Char
  | .x => 'r' | .y => 'g' | .z => 'b' | .w => 'a'

end Comp

/-- A swizzle such as `.rgb` or `.ar`, written with colour letters. -/
def swizzleText (m : List Comp) : String := String.mk (m.map Comp.letter)

/-- A four-component value. -/
structure V4 (α : Type) where
  x : α
  y : α
  z : α
  w : α

namespace V4

variable {α : Type}

/-- Read one component. -/
@[simp] def get (v : V4 α) : Comp → α
  | .x => v.x | .y => v.y | .z => v.z | .w => v.w

/-- Write one component. -/
@[simp] def set (v : V4 α) : Comp → α → V4 α
  | .x, a => { v with x := a }
  | .y, a => { v with y := a }
  | .z, a => { v with z := a }
  | .w, a => { v with w := a }

end V4

/-- The variables the encoders declare or read. -/
inductive Var
  | uv0 | uv1 | sampleUv | xl | xib | yl | yb | yoff | xp | xel | xb | xoff | x2 | halfxb
  | texSample | texSample0 | texSample1 | texRs | texGs | texBs | gInt | gUpper | gLower
  | color0 | color1 | cl | cl0 | cl1 | depth | depth0 | depth1
  | expanded | expanded0 | expanded1 | IntensityConst | ocol0
  deriving DecidableEq, Repr

/-- A variable's name in the text. -/
def Var.name : Var → String
  | .uv0 => "uv0" | .uv1 => "uv1" | .sampleUv => "sampleUv" | .xl => "xl" | .xib => "xib"
  | .yl => "yl" | .yb => "yb" | .yoff => "yoff" | .xp => "xp" | .xel => "xel" | .xb => "xb"
  | .xoff => "xoff" | .x2 => "x2" | .halfxb => "halfxb" | .texSample => "texSample"
  | .texSample0 => "texSample0" | .texSample1 => "texSample1" | .texRs => "texRs"
  | .texGs => "texGs" | .texBs => "texBs" | .gInt => "gInt" | .gUpper => "gUpper"
  | .gLower => "gLower" | .color0 => "color0" | .color1 => "color1" | .cl => "cl"
  | .cl0 => "cl0" | .cl1 => "cl1" | .depth => "depth" | .depth0 => "depth0"
  | .depth1 => "depth1" | .expanded => "expanded" | .expanded0 => "expanded0"
  | .expanded1 => "expanded1" | .IntensityConst => "IntensityConst" | .ocol0 => "ocol0"

/-- A value for every variable; scalars use the `x` component. -/
def Regs (α : Type) := Var → V4 α

namespace Regs

variable {α : Type}

/-- A variable's value. -/
def get (r : Regs α) (v : Var) : V4 α := r v

/-- Replace a variable's value. -/
def put (r : Regs α) (v : Var) (a : V4 α) : Regs α := Function.update r v a

/-- Read one scalar component. -/
@[simp] def read (r : Regs α) (v : Var) (c : Comp) : α := (r.get v).get c

/-- Write one scalar component. -/
@[simp] def write (r : Regs α) (v : Var) (c : Comp) (a : α) : Regs α := r.put v ((r.get v).set c a)

@[simp] theorem get_put_self (r : Regs α) (v : Var) (a : V4 α) : (r.put v a).get v = a := by
  simp [get, put]

@[simp] theorem get_put_of_ne (r : Regs α) {v w : Var} (a : V4 α) (h : w ≠ v) :
    (r.put v a).get w = r.get w := by
  simp [get, put, h]

end Regs

/-- A scalar expression of the emitted text. -/
inductive Expr
  /-- A component of a variable. -/
  | ref (v : Var) (c : Comp)
  /-- A float literal, by the value it prints. -/
  | lit (q : ℚ)
  /-- A component of `I_COLORS[i]`. -/
  | uniform (i : Fin 2) (c : Comp)
  | add (a b : Expr)
  | sub (a b : Expr)
  | mul (a b : Expr)
  | div (a b : Expr)
  | floor (a : Expr)
  | frac (a : Expr)
  /-- A component of `tex2D(samp0, float2(u, v))`. -/
  | sample (c : Comp) (u v : Expr)
  deriving DecidableEq, Repr

/-- The condition of an `if`: `a > b`. -/
structure Cond where
  lhs : Expr
  rhs : Expr
  deriving DecidableEq, Repr

/-- What one written piece of text does when the shader runs. -/
inductive Op
  /-- Declarations, braces, the signature. -/
  | none
  /-- Assign every listed component, all right-hand sides read before any write. -/
  | assign (asg : List ((Var × Comp) × Expr))
  | ifOpen (c : Cond)
  | ifElse
  | ifClose
  deriving DecidableEq, Repr

/-- One piece of text the generator writes, with what it does. -/
structure Line where
  text : String
  op : Op
  deriving DecidableEq, Repr

/-- What a run reads besides the registers: `I_COLORS[0..1]` and the sampler. -/
structure Inputs (α : Type) where
  I_COLORS : Fin 2 → V4 α
  samp0 : α → α → V4 α

variable {α : Type} [LinearOrderedField α] [FloorRing α]

/-- An expression's value. -/
def Expr.eval (inp : Inputs α) (r : Regs α) : Expr → α
  | .ref v c => r.read v c
  | .lit q => q
  | .uniform i c => (inp.I_COLORS i).get c
  | .add a b => a.eval inp r + b.eval inp r
  | .sub a b => a.eval inp r - b.eval inp r
  | .mul a b => a.eval inp r * b.eval inp r
  | .div a b => a.eval inp r / b.eval inp r
  | .floor a => ⌊a.eval inp r⌋
  | .frac a => Int.fract (a.eval inp r)
  | .sample c u v => (inp.samp0 (u.eval inp r) (v.eval inp r)).get c

section Eval

variable (inp : Inputs α) (r : Regs α)

/-! The evaluation of every expression but a sample read, for `simp`; a sample
read is evaluated where the coordinates the encoders sample at are known. -/

@[simp] theorem Expr.eval_ref (v : Var) (c : Comp) : (Expr.ref v c).eval inp r = r.read v c := rfl

@[simp] theorem Expr.eval_lit (q : ℚ) : (Expr.lit q).eval inp r = (q : α) := rfl

@[simp] theorem Expr.eval_uniform (i : Fin 2) (c : Comp) :
    (Expr.uniform i c).eval inp r = (inp.I_COLORS i).get c := rfl

@[simp] theorem Expr.eval_add (a b : Expr) : (a.add b).eval inp r = a.eval inp r + b.eval inp r := rfl

@[simp] theorem Expr.eval_sub (a b : Expr) : (a.sub b).eval inp r = a.eval inp r - b.eval inp r := rfl

@[simp] theorem Expr.eval_mul (a b : Expr) : (a.mul b).eval inp r = a.eval inp r * b.eval inp r := rfl

@[simp] theorem Expr.eval_div (a b : Expr) : (a.div b).eval inp r = a.eval inp r / b.eval inp r := rfl

@[simp] theorem Expr.eval_floor (a : Expr) : a.floor.eval inp r = ⌊a.eval inp r⌋ := rfl

@[simp] theorem Expr.eval_frac (a : Expr) : a.frac.eval inp r = Int.fract (a.eval inp r) := rfl

end Eval

/-- Whether a condition holds. -/
def Cond.holds (inp : Inputs α) (r : Regs α) (c : Cond) : Bool :=
  decide (c.rhs.eval inp r < c.lhs.eval inp r)

/-- A simultaneous assignment. -/
@[simp] def assignAll (inp : Inputs α) (r : Regs α) (asg : List ((Var × Comp) × Expr)) : Regs α :=
  (asg.map fun p => (p.1, p.2.eval inp r)).foldl (fun s p => s.write p.1.1 p.1.2 p.2) r

/-- A running shader: the registers and, for every open `if`, whether its
enclosing code runs and whether the current branch runs. -/
structure Exec (α : Type) where
  regs : Regs α
  frames : List (Bool × Bool)

/-- Whether the code at this point runs. -/
def Exec.active (st : Exec α) : Bool := (st.frames.head?.map Prod.snd).getD true

/-- What one piece of text does. -/
def Op.exec (inp : Inputs α) (st : Exec α) : Op → Exec α
  | .none => st
  | .assign asg => if st.active then { st with regs := assignAll inp st.regs asg } else st
  | .ifOpen c => { st with frames := (st.active, st.active && c.holds inp st.regs) :: st.frames }
  | .ifElse =>
    match st.frames with
    | (enclosing, taken) :: frames =>
      { st with frames := (enclosing, enclosing && !taken) :: frames }
    | [] => st
  | .ifClose => { st with frames := st.frames.tail }

/-- Run a list of statements. -/
def execOps (inp : Inputs α) (os : List Op) (st : Exec α) : Exec α :=
  os.foldl (fun st o => o.exec inp st) st

/-- Run a whole shader, the statements of its lines in order, from the registers
`r` (the input `uv0` among them).  The text of a line plays no part. -/
def runShader (inp : Inputs α) (ls : List Line) (r : Regs α) : Regs α :=
  (execOps inp (ls.map Line.op) ⟨r, []⟩).regs

/-! ## Straight-line code and what a line reads -/

/-- Whether a line has no control flow. -/
def Op.straight : Op → Bool
  | .ifOpen _ | .ifElse | .ifClose => false
  | _ => true

/-- The components an expression reads. -/
def Expr.reads : Expr → List (Var × Comp)
  | .ref v c => [(v, c)]
  | .lit _ | .uniform _ _ => []
  | .add a b | .sub a b | .mul a b | .div a b => a.reads ++ b.reads
  | .floor a | .frac a => a.reads
  | .sample _ u v => u.reads ++ v.reads

/-- The components a statement reads. -/
def Op.reads : Op → List (Var × Comp)
  | .assign asg => asg.flatMap fun p => p.2.reads
  | .ifOpen c => c.lhs.reads ++ c.rhs.reads
  | _ => []

/-- The components a statement writes. -/
def Op.writes : Op → List (Var × Comp)
  | .assign asg => asg.map Prod.fst
  | _ => []

/-- Whether every component of `v` that a statement reads is written by an
earlier statement, given the components already `written`. -/
def writtenBeforeRead (v : Var) : List (Var × Comp) → List Op → Bool
  | _, [] => true
  | written, o :: os =>
    (o.reads.all fun p => p.1 != v || written.contains p) &&
      writtenBeforeRead v (written ++ o.writes) os

@[simp] theorem execOps_append (inp : Inputs α) (os os' : List Op) (st : Exec α) :
    execOps inp (os ++ os') st = execOps inp os' (execOps inp os st) :=
  List.foldl_append _ _ _ _

@[simp] theorem execOps_nil (inp : Inputs α) (st : Exec α) : execOps inp [] st = st := rfl

@[simp] theorem execOps_cons (inp : Inputs α) (o : Op) (os : List Op) (st : Exec α) :
    execOps inp (o :: os) st = execOps inp os (o.exec inp st) := rfl

theorem Op.exec_frames_of_straight (inp : Inputs α) (st : Exec α) {op : Op} (h : op.straight) :
    (op.exec inp st).frames = st.frames := by
  cases op <;> simp_all [Op.exec, Op.straight, apply_ite Exec.frames]

/-- Straight-line code leaves the open `if`s as they were. -/
theorem execOps_frames_of_straight (inp : Inputs α) (os : List Op)
    (h : os.all Op.straight) (st : Exec α) : (execOps inp os st).frames = st.frames := by
  induction os generalizing st with
  | nil => rfl
  | cons o os ih =>
    simp only [List.all_cons, Bool.and_eq_true] at h
    rw [execOps_cons, ih h.2, Op.exec_frames_of_straight inp st h.1]

/-- Straight-line code run outside any `if` ends outside any `if`. -/
theorem execOps_of_straight (inp : Inputs α) (os : List Op) (h : os.all Op.straight)
    (r : Regs α) :
    execOps inp os ⟨r, []⟩ = ⟨(execOps inp os ⟨r, []⟩).regs, []⟩ := by
  have hf := execOps_frames_of_straight inp os h ⟨r, []⟩
  revert hf
  cases execOps inp os ⟨r, []⟩
  simp_all

/-! ## One statement at a time

A run outside any `if` is `⟨r, []⟩`; inside one `if` at the top level it is
`⟨r, [(true, b)]⟩`, `b` telling whether the current branch runs.  These are the
only shapes the encoders produce. -/

section Steps

variable (inp : Inputs α) (r : Regs α)

@[simp] theorem Op.exec_none (st : Exec α) : Op.none.exec inp st = st := rfl

@[simp] theorem Op.exec_assign_top (asg : List ((Var × Comp) × Expr)) :
    (Op.assign asg).exec inp ⟨r, []⟩ = ⟨assignAll inp r asg, []⟩ := rfl

@[simp] theorem Op.exec_ifOpen_top (c : Cond) :
    (Op.ifOpen c).exec inp ⟨r, []⟩ = ⟨r, [(true, c.holds inp r)]⟩ := rfl

@[simp] theorem Op.exec_assign_taken (asg : List ((Var × Comp) × Expr)) :
    (Op.assign asg).exec inp ⟨r, [(true, true)]⟩ = ⟨assignAll inp r asg, [(true, true)]⟩ := rfl

@[simp] theorem Op.exec_assign_skipped (asg : List ((Var × Comp) × Expr)) :
    (Op.assign asg).exec inp ⟨r, [(true, false)]⟩ = ⟨r, [(true, false)]⟩ := rfl

@[simp] theorem Op.exec_ifElse_top (b : Bool) :
    Op.ifElse.exec inp ⟨r, [(true, b)]⟩ = ⟨r, [(true, !b)]⟩ := rfl

@[simp] theorem Op.exec_ifClose_top (b : Bool) :
    Op.ifClose.exec inp ⟨r, [(true, b)]⟩ = ⟨r, []⟩ := rfl

end Steps

end ShaderGen
