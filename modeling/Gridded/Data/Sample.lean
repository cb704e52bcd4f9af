import Gridded.Document

/-!
# Sample values

Typical parameters, coordinates and times of model output.
-/

namespace Gridded.Sample

/-- A stretched ocean coordinate. -/
def ocean : List (String × Document) := [
  ("theta_s", .real 2.0),
  ("theta_b", .real 0.5),
  ("depth_c", .real 10.0),
  ("s_levels", .list ([-1.0, -0.5, 0.0].map .real)),
  ("formula_terms", .text "s: s_rho eta: zeta depth: h a: theta_s b: theta_b depth_c: hc")]

/-- A hybrid pressure coordinate of five levels. -/
def hybrid : List (String × Document) := [
  ("hyam", .list ([0.00365, 0.0757, 0.2, 0.15, 0.0].map .real)),
  ("hybm", .list ([0.0, 0.0, 0.1, 0.5, 0.992].map .real)),
  ("p0_pa", .real 100000.0),
  ("p0_hpa", .real 1000.0),
  ("formula_terms", .text "a: hyam b: hybm p0: P0 ps: PS"),
  ("formula_terms_ap", .text "ap: hyai b: hybi ps: PS")]

/-- Coordinates along axes of each spacing. -/
def axes : List (String × Document) := [
  ("irregular_points", .list ([1.0, 2.0, 4.0, 8.0].map .real)),
  ("contiguous_edges", .list ([0.0, 1.0, 3.0, 6.0, 10.0, 15.0].map .real)),
  ("discontiguous_bounds", .list ([0.0, 1.0, 2.0, 4.0, 4.0, 5.0, 10.0, 12.0].map .real)),
  ("pressure_levels_hpa", .list ([1000.0, 925.0, 850.0, 700.0, 500.0, 250.0].map .real))]

/-- A reference time and forecast hours after it. -/
def times : List (String × Document) := [
  ("reference_time", .text "2024-01-15T12:00:00Z"),
  ("hours_since_reference", .text "hours since 2024-01-15T12:00:00Z"),
  ("forecast_hours", .list ([0.0, 1.0, 3.0, 6.0, 12.0, 24.0, 48.0, 120.0].map .real))]

end Gridded.Sample
