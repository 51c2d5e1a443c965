import LinearProgramming.Interior.Solve
import LinearProgramming.Search.Options
import LinearProgramming.Storage.Value

/-!
The stored form of control parameters.
-/

namespace LinearProgramming.Storage

def simplexOptionFields : List String :=
  ["msg_lev", "meth", "pricing", "r_test", "tol_bnd", "tol_dj", "tol_piv", "obj_ll", "obj_ul",
    "it_lim", "tm_lim", "out_frq", "out_dly", "presolve"]

instance : Stored (Simplex.Options Float) where
  store options :=
    .record
      [("msg_lev", Stored.store options.messageLevel),
        ("meth", Stored.store options.method),
        ("pricing", Stored.store options.pricing),
        ("r_test", Stored.store options.ratioTest),
        ("tol_bnd", Stored.store options.boundTolerance),
        ("tol_dj", Stored.store options.reducedCostTolerance),
        ("tol_piv", Stored.store options.pivotTolerance),
        ("obj_ll", Stored.store options.objectiveLower),
        ("obj_ul", Stored.store options.objectiveUpper),
        ("it_lim", Stored.store options.iterationLimit),
        ("tm_lim", Stored.store options.timeLimit),
        ("out_frq", Stored.store options.outputFrequency),
        ("out_dly", Stored.store options.outputDelay),
        ("presolve", Stored.store options.presolve)]
  load? value := do
    guard (value.fits simplexOptionFields)
    let field := value.field? simplexOptionFields
    return {
      messageLevel := ← required (field "msg_lev")
      method := ← required (field "meth")
      pricing := ← required (field "pricing")
      ratioTest := ← required (field "r_test")
      boundTolerance := ← required (field "tol_bnd")
      reducedCostTolerance := ← required (field "tol_dj")
      pivotTolerance := ← required (field "tol_piv")
      objectiveLower := ← required (field "obj_ll")
      objectiveUpper := ← required (field "obj_ul")
      iterationLimit := ← required (field "it_lim")
      timeLimit := ← required (field "tm_lim")
      outputFrequency := ← required (field "out_frq")
      outputDelay := ← required (field "out_dly")
      presolve := ← required (field "presolve") }

def interiorOptionFields : List String := ["msg_lev", "ord_alg"]

instance : Stored Interior.Options where
  store options :=
    .record
      [("msg_lev", Stored.store options.messageLevel), ("ord_alg", Stored.store options.ordering)]
  load? value := do
    guard (value.fits interiorOptionFields)
    let field := value.field? interiorOptionFields
    return {
      messageLevel := ← required (field "msg_lev")
      ordering := ← required (field "ord_alg") }

def searchOptionFields : List String :=
  ["msg_lev", "br_tech", "bt_tech", "tol_int", "tol_obj", "tm_lim", "out_frq", "out_dly", "pp_tech",
    "mip_gap", "mir_cuts", "gmi_cuts", "cov_cuts", "clq_cuts", "presolve", "binarize"]

instance : Stored (Search.Options Float) where
  store options :=
    .record
      [("msg_lev", Stored.store options.messageLevel),
        ("br_tech", Stored.store options.branching),
        ("bt_tech", Stored.store options.backtracking),
        ("tol_int", Stored.store options.integerTolerance),
        ("tol_obj", Stored.store options.objectiveTolerance),
        ("tm_lim", Stored.store options.timeLimit),
        ("out_frq", Stored.store options.outputFrequency),
        ("out_dly", Stored.store options.outputDelay),
        ("pp_tech", Stored.store options.preprocessing),
        ("mip_gap", Stored.store options.gap),
        ("mir_cuts", Stored.store options.roundingCuts),
        ("gmi_cuts", Stored.store options.gomoryCuts),
        ("cov_cuts", Stored.store options.coverCuts),
        ("clq_cuts", Stored.store options.cliqueCuts),
        ("presolve", Stored.store options.presolve),
        ("binarize", Stored.store options.binarize)]
  load? value := do
    guard (value.fits searchOptionFields)
    let field := value.field? searchOptionFields
    return {
      messageLevel := ← required (field "msg_lev")
      branching := ← required (field "br_tech")
      backtracking := ← required (field "bt_tech")
      integerTolerance := ← required (field "tol_int")
      objectiveTolerance := ← required (field "tol_obj")
      timeLimit := ← required (field "tm_lim")
      outputFrequency := ← required (field "out_frq")
      outputDelay := ← required (field "out_dly")
      preprocessing := ← required (field "pp_tech")
      gap := ← required (field "mip_gap")
      roundingCuts := ← required (field "mir_cuts")
      gomoryCuts := ← required (field "gmi_cuts")
      coverCuts := ← required (field "cov_cuts")
      cliqueCuts := ← required (field "clq_cuts")
      presolve := ← required (field "presolve")
      binarize := ← required (field "binarize") }

end LinearProgramming.Storage
