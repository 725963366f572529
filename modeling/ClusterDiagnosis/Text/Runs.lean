/-!
Sets of code points as run lengths: how many code points in a row are outside, then how many are
inside, and so on, from zero. Behind the last run the other side goes on to the end.
-/

set_option autoImplicit false
set_option relaxedAutoImplicit false

namespace ClusterDiagnosis.Text

/-- Whether the `n`-th code point from here is inside, where the next run is inside if `inside`. -/
def inRuns (inside : Bool) : List Nat → Nat → Bool
  | [], _ => inside
  | run :: runs, n => if n < run then inside else inRuns (!inside) runs (n - run)

end ClusterDiagnosis.Text
