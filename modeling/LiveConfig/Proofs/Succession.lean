import LiveConfig.Backend.Basic
set_option autoImplicit false

/-!
Fetches from one backend, one after the other. Each is made in the world as it is then, by the
backend that the one before has left.
-/
namespace LiveConfig.Backend

def outcome (b : Backend) (v : World × String) : Journaled Progress :=
  Prod.snd <$> b.advance v.1 0 .arriving v.2

def next (b : Backend) (v : World × String) : Backend := (b.advance v.1 0 .arriving v.2).value.1

def series : Backend → List (World × String) → List (Journaled Progress)
  | _, [] => []
  | b, v :: rest => b.outcome v :: (b.next v).series rest

/-- A fetch is made by the backend that all those before have left. -/
theorem getElem?_series (b : Backend) (before after : List (World × String)) (v : World × String) :
    (b.series (before ++ v :: after))[before.length]? =
      some ((before.foldl next b).outcome v) := by
  induction before generalizing b with
  | nil => rfl
  | cons u before ih => simp [series, ih]

/-- Fetches that leave the backend as it is are each for itself. -/
theorem series_of_next {b : Backend} (h : ∀ v, b.next v = b) (visits : List (World × String)) :
    b.series visits = visits.map b.outcome := by
  induction visits with
  | nil => rfl
  | cons v visits ih => simp [series, h, ih]

end LiveConfig.Backend
