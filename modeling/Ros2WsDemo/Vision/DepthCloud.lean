import Mathlib.Algebra.Order.Field.Basic
import Mathlib.LinearAlgebra.Matrix.Notation
import Mathlib.Tactic.FieldSimp
import Mathlib.Tactic.NormNum
import Ros2WsDemo.Lib.NumpyArray

/-!
# Point clouds from depth images

`depth_to_point_cloud` of the button detector, in exact arithmetic.  The pixels of the
image are handled as flat arrays; seen index by index, each pixel with a positive depth is
projected back on its own.
-/

namespace Ros2WsDemo.ControlHost

open Numpy

/-- A row of the point cloud. -/
structure Point (K : Type) where
  x : K
  y : K
  z : K
  deriving DecidableEq

variable {K : Type} [Field K] [LinearOrder K] {height width : ℕ}

/-- `np.vstack((x, y, z)).T` -/
def columns (x y z : List K) : List (Point K) :=
  (x.zip (y.zip z)).map fun p => ⟨p.1, p.2.1, p.2.2⟩

def depthToPointCloud (depth : Matrix (Fin height) (Fin width) K)
    (intrinsic : Matrix (Fin 3) (Fin 3) K) (scale : K) : List (Point K) :=
  let (u, v) := meshgrid (fun j : Fin width => ((j : ℕ) : K)) fun i : Fin height => ((i : ℕ) : K)
  let u := flatten u
  let v := flatten v
  let depth := (flatten depth).map (· / scale)
  let valid := depth.map fun d => decide (0 < d)
  let u := select u valid
  let v := select v valid
  let depth := select depth valid
  let fx := intrinsic 0 0
  let fy := intrinsic 1 1
  let cx := intrinsic 0 2
  let cy := intrinsic 1 2
  let x := (List.zipWith (· * ·) (u.map (· - cx)) depth).map (· / fx)
  let y := (List.zipWith (· * ·) (v.map (· - cy)) depth).map (· / fy)
  let z := depth
  columns x y z

/-- `dep2pcl_func`, with the default scale. -/
def dep2pclFunc (depthImage : Matrix (Fin height) (Fin width) K)
    (intrinsic : Matrix (Fin 3) (Fin 3) K) : List (Point K) :=
  depthToPointCloud depthImage intrinsic (1000 : ℕ)

/-! ## Pixel by pixel -/

/-- The point of the pixel in row `i` and column `j` at depth `d`. -/
def backProject (intrinsic : Matrix (Fin 3) (Fin 3) K) (i j : ℕ) (d : K) : Point K :=
  ⟨((j : K) - intrinsic 0 2) * d / intrinsic 0 0, ((i : K) - intrinsic 1 2) * d / intrinsic 1 1, d⟩

/-- The column, the row and the depth at which the camera sees a point. -/
def project (intrinsic : Matrix (Fin 3) (Fin 3) K) (p : Point K) : K × K × K :=
  (intrinsic 0 0 * p.x / p.z + intrinsic 0 2, intrinsic 1 1 * p.y / p.z + intrinsic 1 2, p.z)

omit [LinearOrder K] in
theorem project_backProject {intrinsic : Matrix (Fin 3) (Fin 3) K} (hfx : intrinsic 0 0 ≠ 0)
    (hfy : intrinsic 1 1 ≠ 0) (i j : ℕ) {d : K} (hd : d ≠ 0) :
    project intrinsic (backProject intrinsic i j d) = ((j : K), (i : K), d) := by
  unfold project backProject
  refine Prod.ext ?_ (Prod.ext ?_ rfl)
  · field_simp
    ring
  · field_simp
    ring

/-- The cloud is the list of the pixels with positive depth, in row-major order. -/
theorem depthToPointCloud_eq (depth : Matrix (Fin height) (Fin width) K)
    (intrinsic : Matrix (Fin 3) (Fin 3) K) (scale : K) :
    depthToPointCloud depth intrinsic scale =
      ((indices height width).filter fun p => decide (0 < depth p.1 p.2 / scale)).map
        fun p => backProject intrinsic p.1 p.2 (depth p.1 p.2 / scale) := by
  unfold depthToPointCloud meshgrid columns
  simp only [flatten_eq_map, List.map_map, Function.comp_def, Matrix.of_apply, select_map,
    zipWith_maps, List.zip_map']
  rfl

theorem depthToPointCloud_projects [IsStrictOrderedRing K]
    (depth : Matrix (Fin height) (Fin width) K) {intrinsic : Matrix (Fin 3) (Fin 3) K} {scale : K}
    (hscale : 0 < scale) (hfx : intrinsic 0 0 ≠ 0) (hfy : intrinsic 1 1 ≠ 0) :
    ∃ pixels : List (Fin height × Fin width), pixels.Pairwise RowMajor ∧
      (∀ p, p ∈ pixels ↔ 0 < depth p.1 p.2) ∧
      List.Forall₂ (fun p q => project intrinsic q =
          (((p.2 : ℕ) : K), ((p.1 : ℕ) : K), depth p.1 p.2 / scale))
        pixels (depthToPointCloud depth intrinsic scale) := by
  have hpos : ∀ d, 0 < d / scale ↔ 0 < d := fun d => div_pos_iff_of_pos_right hscale
  refine ⟨(indices height width).filter fun p => decide (0 < depth p.1 p.2 / scale),
    indices_rowMajor.filter _, fun p => ?_, ?_⟩
  · simp [mem_indices, hpos]
  · rw [depthToPointCloud_eq, List.forall₂_map_right_iff, List.forall₂_same]
    intro p hp
    have hd : 0 < depth p.1 p.2 / scale := by simpa using (List.mem_filter.mp hp).2
    exact project_backProject hfx hfy _ _ hd.ne'

/-- A camera for small images. -/
def smallCamera : Matrix (Fin 3) (Fin 3) ℚ := !![600, 0, 1; 0, 300, 1; 0, 0, 1]

/-- Two of six pixels have a positive depth. -/
theorem depthToPointCloud_projects_two : ∃ pixels : List (Fin 2 × Fin 3),
    (∀ p, p ∈ pixels ↔ 0 < !![0, 500, -3; 0, 0, (250 : ℚ)] p.1 p.2) ∧
      pixels.length =
        (depthToPointCloud !![0, 500, -3; 0, 0, (250 : ℚ)] smallCamera 1000).length := by
  have hfx : smallCamera 0 0 ≠ 0 := by norm_num [smallCamera]
  have hfy : smallCamera 1 1 ≠ 0 := by norm_num [smallCamera]
  have hscale : (0 : ℚ) < 1000 := by norm_num
  obtain ⟨pixels, -, hmem, hcloud⟩ := depthToPointCloud_projects
    !![0, 500, -3; 0, 0, (250 : ℚ)] hscale hfx hfy
  exact ⟨pixels, hmem, hcloud.length_eq⟩

end Ros2WsDemo.ControlHost
