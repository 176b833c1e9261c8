import OdbcFast.Native.Protocol.BoundParam

/-!
# Ref cursors on Oracle

The driver does not bind cursors: their question marks are taken out of the call's text, one
after another, each with a comma directly in front of it and with one directly behind it.
-/

namespace OdbcFast.Native

def errPrefix : String := "DIRECTED_PARAM|"

def validationDirected (msg : String) : OdbcError := .validationError (errPrefix ++ msg)

def countPlaceholders (sql : List Char) : Nat := (sql.filter (· = '?')).length

/-- The loop over the parameters, with the text that is left and what has been put out. -/
def stripLoop : Nat → List BoundParam → List Char → List Char → Except OdbcError (List Char)
  | _, [], rest, out => .ok (out ++ rest)
  | i, bp :: bound, rest, out =>
    match rest.dropWhile (· ≠ '?') with
    | [] =>
      .error (validationDirected
        s!"ref_cursor_oracle_internal: missing '?' for bound parameter {i}")
    | _ :: behind =>
      let front := rest.takeWhile (· ≠ '?')
      let removed := bp.value = .refCursorOut
      let out := out ++ if removed ∧ front.getLast? = some ',' then front.dropLast else front
      if bp.direction = .input ∧ removed then
        .error (validationDirected ("ref_cursor_out_invalid_direction: ParamValue::RefCursorOut " ++
          "is only valid for ParamDirection::output (or in/out on Oracle)"))
      else
        let out := if removed then out else out ++ ['?']
        let rest := if removed ∧ behind.head? = some ',' then behind.tail else behind
        stripLoop (i + 1) bound rest out

def stripRefCursorPlaceholders (sql : String) (bound : List BoundParam) :
    Except OdbcError String :=
  let nq := countPlaceholders sql.toList
  if nq ≠ bound.length then
    .error (validationDirected
      (s!"ref_cursor_oracle_sql_param_count: SQL has {nq} '?' but bound list has " ++
        s!"{bound.length} params"))
  else (stripLoop 0 bound sql.toList []).map String.ofList

example :
    stripRefCursorPlaceholders "call p(?,?,?)"
      [⟨.output, .refCursorOut⟩, ⟨.input, .integer 0⟩, ⟨.output, .refCursorOut⟩] =
        .ok "call p(?)" := by
  decide +kernel

end OdbcFast.Native
