/-!
The symbols a guest library must export, in the order in which they are looked up.
-/

namespace GuestRuntime.Library

/-- The counter behind the root stack; a library may keep it to itself. -/
def depthSymbol : String := "R_PPStackTop"

/-- What every library must have: starting and its callback slots, the variables, the work on
objects, the ending. -/
def requiredSymbols : List String :=
  ["Rf_initialize_R", "setup_Rmainloop", "ptr_R_WriteConsoleEx", "ptr_R_WriteConsole",
    "ptr_R_ShowMessage", "ptr_R_CleanUp", "ptr_R_ProcessEvents", "ptr_R_Busy", "R_GlobalEnv",
    "R_NilValue", "R_CStackLimit", "Rf_allocVector", "Rf_protect", "Rf_unprotect", "Rf_mkCharCE",
    "SET_STRING_ELT", "R_ParseVector", "Rf_xlength", "VECTOR_ELT", "R_tryEval", "TYPEOF",
    "STRING_ELT", "R_CHAR", "RAW", "INTEGER", "LOGICAL", "REAL", "R_IsNA", "R_dot_Last",
    "R_RunExitFinalizers", "Rf_KillAllDevices", "R_CleanTempDir", "R_gc", "Rf_endEmbeddedR"]

/-- The first symbol that is required and missing. -/
def firstMissing? (lacking : List String) : Option String :=
  requiredSymbols.find? fun s => lacking.contains s

end GuestRuntime.Library
