import Mathlib.Algebra.Star.Basic

/-!
# Rigid transforms

A translation after a rotation, where rotations act on vectors by conjugation, as the
quaternions do.
-/

@[ext] structure RigidTransform (R : Type) where
  translation : R
  rotation : R

namespace RigidTransform

variable {R : Type} [Semiring R]

instance : One (RigidTransform R) := ⟨⟨0, 1⟩⟩

@[simp] theorem translation_one : (1 : RigidTransform R).translation = 0 := rfl

@[simp] theorem rotation_one : (1 : RigidTransform R).rotation = 1 := rfl

variable [StarRing R]

instance : Mul (RigidTransform R) where
  mul a b := {
    translation := a.translation + a.rotation * b.translation * star a.rotation
    rotation := a.rotation * b.rotation }

@[simp] theorem translation_mul (a b : RigidTransform R) :
    (a * b).translation = a.translation + a.rotation * b.translation * star a.rotation := rfl

@[simp] theorem rotation_mul (a b : RigidTransform R) :
    (a * b).rotation = a.rotation * b.rotation := rfl

instance : Monoid (RigidTransform R) where
  mul_assoc a b c := by
    ext
    · simp only [translation_mul, rotation_mul, star_mul, mul_add, add_mul, add_assoc, mul_assoc]
    · simp only [rotation_mul, mul_assoc]
  one_mul a := by ext <;> simp
  mul_one a := by ext <;> simp

end RigidTransform
