import OdbcFast.Native.Engine.RefCursorOracle

/-!
# Calls without their ref cursors

The arguments of a call are question marks between commas, with blanks around them. A comma is
taken out when it directly follows a ref cursor or directly precedes one, whichever of the two
it separates. So a run of ref cursors between two other arguments may lose the comma on its
left and the one on its right, and a blank keeps a comma that separates nothing any more.
-/

namespace OdbcFast.Verification

open Native

/-- A question mark, the parameter that is bound to it and the blanks in front of it and
behind it. -/
structure CallArgument where
  before : Nat
  param : BoundParam
  after : Nat
  deriving DecidableEq, Repr

namespace CallArgument

def text (argument : CallArgument) : List Char :=
  List.replicate argument.before ' ' ++ '?' :: List.replicate argument.after ' '

def isCursor (argument : CallArgument) : Bool := argument.param.value = .refCursorOut

theorem isCursor_iff (argument : CallArgument) :
    argument.isCursor = true ↔ argument.param.value = .refCursorOut := decide_eq_true_iff

end CallArgument

/-- A call: what stands around the parentheses has no question mark. -/
structure CallText where
  head : List Char
  arguments : List CallArgument
  tail : List Char
  clean : '?' ∉ head ∧ '?' ∉ tail

namespace CallText

def text (call : CallText) : String :=
  String.ofList (call.head ++ '(' :: ([','].intercalate (call.arguments.map CallArgument.text) ++
    ')' :: call.tail))

def bound (call : CallText) : List BoundParam := call.arguments.map CallArgument.param

end CallText

/-- The engine's own check: a cursor is no input. -/
def CursorsDirected (call : CallText) : Prop :=
  ∀ param ∈ call.bound, param.value = .refCursorOut → param.direction ≠ .input

/-- The text is the call with one question mark for each of the other arguments and, blanks
apart, exactly one comma between two of them. -/
def OthersRemain (call : CallText) (out : String) : Prop :=
  ∃ list, out.toList = call.head ++ '(' :: (list ++ ')' :: call.tail) ∧
    list.filter (· ≠ ' ') = [','].intercalate
      ((call.arguments.filter fun argument => ¬ argument.isCursor).map fun _ => ['?'])

/-- The comma between two arguments does not directly follow or precede a cursor. -/
def commaStays (x y : CallArgument) : Bool :=
  !(x.isCursor && x.after == 0) && !(y.isCursor && y.before == 0)

/-- Between two neighbours among the other arguments one comma stays, and none in front of the
first of them or behind the last. The commas that stay are counted from the last of the other
arguments on, or from the beginning, when none has been seen. -/
def CommasFitBehind (seen : Bool) (commas : Nat) (x : CallArgument) : List CallArgument → Prop
  | [] => commas = 0
  | y :: ys =>
    let commas := commas + (commaStays x y).toNat
    if y.isCursor then CommasFitBehind seen commas y ys
    else commas = seen.toNat ∧ CommasFitBehind true 0 y ys

def CommasFit : List CallArgument → Prop
  | [] => True
  | x :: xs => CommasFitBehind (!x.isCursor) 0 x xs

/-! ## What is put out -/

/-- What stays between two arguments. -/
def gap (x y : CallArgument) : List Char :=
  List.replicate x.after ' ' ++ (if commaStays x y then [','] else []) ++
    List.replicate y.before ' '

def mark (x : CallArgument) : List Char := if x.isCursor then [] else ['?']

def strippedBehind (x : CallArgument) : List CallArgument → List Char
  | [] => List.replicate x.after ' '
  | y :: ys => gap x y ++ mark y ++ strippedBehind y ys

def stripped : List CallArgument → List Char
  | [] => []
  | x :: xs => List.replicate x.before ' ' ++ mark x ++ strippedBehind x xs

theorem intercalate_cons (separator : Char) (x : List Char) (xs : List (List Char)) :
    [separator].intercalate (x :: xs) = x ++ xs.flatMap (separator :: ·) := by
  induction xs generalizing x with
  | nil => simp [List.intercalate]
  | cons y ys ih =>
      rw [List.intercalate_cons_cons, ih, List.flatMap_cons, List.append_assoc]
      rfl

/-- What is left of the text behind a question mark, whose comma is gone if it follows directly. -/
def textBehind (x : CallArgument) (ys : List CallArgument) (tail : List Char) : List Char :=
  let behind := List.replicate x.after ' ' ++
    ((ys.map CallArgument.text).flatMap (',' :: ·) ++ ')' :: tail)
  if x.isCursor = true ∧ behind.head? = some ',' then behind.tail else behind

/-- One turn of the loop. -/
theorem stripLoop_cons {i : Nat} {param : BoundParam} {bound : List BoundParam}
    {front behind out : List Char} (clean : '?' ∉ front)
    (directed : param.value = .refCursorOut → param.direction ≠ .input) :
    stripLoop i (param :: bound) (front ++ '?' :: behind) out =
      stripLoop (i + 1) bound
        (if param.value = .refCursorOut ∧ behind.head? = some ',' then behind.tail else behind)
        (out ++ (if param.value = .refCursorOut ∧ front.getLast? = some ',' then front.dropLast
          else front) ++ if param.value = .refCursorOut then [] else ['?']) := by
  have apart : ∀ c ∈ front, decide (c ≠ '?') = true := by
    intro c member
    rw [decide_eq_true_eq]
    rintro rfl
    exact clean member
  have passes : ¬ (param.direction = .input ∧ param.value = .refCursorOut) := by
    rintro ⟨input, cursor⟩
    exact directed cursor input
  rw [stripLoop, List.dropWhile_append_of_pos apart, List.takeWhile_append_of_pos apart,
    List.dropWhile_cons_of_neg (by decide), List.takeWhile_cons_of_neg (by decide),
    List.append_nil]
  dsimp only
  rw [if_neg passes]
  by_cases cursor : param.value = .refCursorOut
  · rw [if_pos cursor, if_pos cursor, List.append_nil]
  · rw [if_neg cursor, if_neg cursor]

/-- What is left of a separator when the question mark behind it has its turn. -/
def frontOf (x y : CallArgument) : List Char :=
  (if (x.isCursor && x.after == 0) = true then [] else List.replicate x.after ' ' ++ [',']) ++
    List.replicate y.before ' '

theorem clean_frontOf (x y : CallArgument) : '?' ∉ frontOf x y := by
  rw [frontOf]
  split_ifs <;> simp [List.mem_replicate]

theorem textBehind_cons (x y : CallArgument) (ys : List CallArgument) (tail : List Char) :
    textBehind x (y :: ys) tail = frontOf x y ++ '?' :: (List.replicate y.after ' ' ++
      ((ys.map CallArgument.text).flatMap (',' :: ·) ++ ')' :: tail)) := by
  rw [textBehind, frontOf, List.map_cons, List.flatMap_cons, CallArgument.text]
  cases x.isCursor with
  | false => simp
  | true =>
      cases x.after with
      | zero => simp
      | succ n => simp [List.replicate_succ]

theorem textBehind_nil (x : CallArgument) (tail : List Char) :
    textBehind x [] tail = List.replicate x.after ' ' ++ ')' :: tail := by
  rw [textBehind, if_neg]
  · rfl
  · rintro ⟨-, comma⟩
    cases blanks : x.after with
    | zero =>
        rw [blanks] at comma
        cases comma
    | succ n =>
        rw [blanks, List.replicate_succ] at comma
        cases comma

/-- A cursor takes the comma directly in front of it, if that is still there. -/
theorem gap_eq (x y : CallArgument) :
    (if y.param.value = .refCursorOut ∧ (frontOf x y).getLast? = some ',' then
      (frontOf x y).dropLast else frontOf x y) = gap x y := by
  simp only [← CallArgument.isCursor_iff]
  rw [frontOf, gap, commaStays]
  cases y.before with
  | zero =>
      rw [List.replicate_zero, List.append_nil, List.append_nil]
      by_cases dropped : (x.isCursor && x.after == 0) = true
      · obtain ⟨cursor, none⟩ := Bool.and_eq_true_iff.mp dropped
        simp [cursor, beq_iff_eq.mp none]
      · simp only [dropped]
        cases y.isCursor <;> simp
  | succ n =>
      rw [List.replicate_succ', ← List.append_assoc, List.getLast?_concat, if_neg (by simp)]
      by_cases dropped : (x.isCursor && x.after == 0) = true
      · obtain ⟨cursor, none⟩ := Bool.and_eq_true_iff.mp dropped
        simp [cursor, beq_iff_eq.mp none]
      · simp [dropped]

/-- The loop over the arguments that are left, by induction on them. -/
theorem stripLoop_behind {tail : List Char} (x : CallArgument) (ys : List CallArgument) (i : Nat)
    (out : List Char)
    (directed : ∀ y ∈ ys, y.param.value = .refCursorOut → y.param.direction ≠ .input) :
    stripLoop i (ys.map CallArgument.param) (textBehind x ys tail) out =
      .ok (out ++ (strippedBehind x ys ++ ')' :: tail)) := by
  induction ys generalizing x i out with
  | nil =>
      rw [textBehind_nil]
      rfl
  | cons y ys ih =>
      have rest : (if y.param.value = .refCursorOut ∧ (List.replicate y.after ' ' ++
            ((ys.map CallArgument.text).flatMap (',' :: ·) ++ ')' :: tail)).head? = some ',' then
          (List.replicate y.after ' ' ++
            ((ys.map CallArgument.text).flatMap (',' :: ·) ++ ')' :: tail)).tail
          else List.replicate y.after ' ' ++
            ((ys.map CallArgument.text).flatMap (',' :: ·) ++ ')' :: tail)) =
          textBehind y ys tail := by
        simp only [textBehind, CallArgument.isCursor_iff]
      have marked : (if y.param.value = .refCursorOut then [] else ['?']) = mark y := by
        simp only [mark, CallArgument.isCursor_iff]
      rw [List.map_cons, textBehind_cons,
        stripLoop_cons (clean_frontOf x y) (directed y List.mem_cons_self), gap_eq, rest, marked,
        ih _ _ _ fun y' member => directed y' (List.mem_cons_of_mem _ member)]
      simp only [strippedBehind, List.append_assoc]

theorem countPlaceholders_text (call : CallText) :
    countPlaceholders call.text.toList = call.bound.length := by
  have outside : ∀ {text : List Char}, '?' ∉ text → text.filter (· = '?') = [] := by
    intro text clean
    refine List.filter_eq_nil_iff.mpr fun c member => ?_
    rw [decide_eq_true_eq]
    rintro rfl
    exact clean member
  have one : ∀ argument : CallArgument, argument.text.filter (· = '?') = ['?'] := by
    intro argument
    rw [CallArgument.text, List.filter_append, List.filter_cons_of_pos (by decide),
      outside (by simp [List.mem_replicate]), outside (by simp [List.mem_replicate])]
    rfl
  have behind : ∀ xs : List CallArgument,
      (((xs.map CallArgument.text).flatMap (',' :: ·)).filter (· = '?')).length = xs.length := by
    intro xs
    induction xs with
    | nil => rfl
    | cons x xs ih =>
        rw [List.map_cons, List.flatMap_cons, List.filter_append, List.length_append, ih,
          List.filter_cons_of_neg (by decide), one, List.length_singleton, List.length_cons,
          Nat.add_comm]
  have list : (([','].intercalate (call.arguments.map CallArgument.text)).filter
      (· = '?')).length = call.arguments.length := by
    cases call.arguments with
    | nil => rfl
    | cons x xs =>
        rw [List.map_cons, intercalate_cons, List.filter_append, List.length_append, behind, one,
          List.length_singleton, List.length_cons, Nat.add_comm]
  rw [countPlaceholders, CallText.text, String.toList_ofList, List.filter_append,
    outside call.clean.1, List.nil_append, List.filter_cons_of_neg (by decide),
    List.filter_append, List.filter_cons_of_neg (by decide), outside call.clean.2,
    List.append_nil, list, CallText.bound, List.length_map]

/-- What the engine makes of a call. -/
theorem strip_text (call : CallText) (directed : CursorsDirected call) :
    stripRefCursorPlaceholders call.text call.bound =
      .ok (String.ofList (call.head ++ '(' :: (stripped call.arguments ++ ')' :: call.tail))) := by
  rw [stripRefCursorPlaceholders, countPlaceholders_text, if_neg (not_not.mpr rfl)]
  have run : stripLoop 0 call.bound call.text.toList [] =
      .ok (call.head ++ '(' :: (stripped call.arguments ++ ')' :: call.tail)) := by
    obtain ⟨head, arguments, tail, clean⟩ := call
    cases arguments with
    | nil =>
        rw [CallText.text, String.toList_ofList]
        rfl
    | cons x xs =>
        have front : '?' ∉ head ++ '(' :: List.replicate x.before ' ' := by
          simp [clean.1, List.mem_replicate]
        have last : (head ++ '(' :: List.replicate x.before ' ').getLast? ≠ some ',' := by
          cases x.before with
          | zero => simp
          | succ n =>
              have blank : head ++ '(' :: List.replicate (n + 1) ' ' =
                  (head ++ '(' :: List.replicate n ' ') ++ [' '] := by
                rw [List.replicate_succ', List.append_assoc, List.cons_append]
              rw [blank, List.getLast?_concat]
              simp
        have whole : (CallText.mk head (x :: xs) tail clean).text.toList =
            (head ++ '(' :: List.replicate x.before ' ') ++ '?' :: (List.replicate x.after ' ' ++
              ((xs.map CallArgument.text).flatMap (',' :: ·) ++ ')' :: tail)) := by
          rw [CallText.text, String.toList_ofList, List.map_cons, intercalate_cons,
            CallArgument.text]
          simp only [List.append_assoc, List.cons_append]
        have first : ∀ {α : Type} (a b : α), (if x.param.value = .refCursorOut ∧
            (head ++ '(' :: List.replicate x.before ' ').getLast? = some ',' then a else b) = b :=
          fun a b => if_neg fun both => last both.2
        rw [whole, CallText.bound, List.map_cons,
          stripLoop_cons front (directed _ List.mem_cons_self), first]
        have behind := @stripLoop_behind tail x xs 1
          (head ++ '(' :: (List.replicate x.before ' ' ++ mark x))
          fun y member => directed _ (List.mem_cons_of_mem _ (List.mem_map_of_mem member))
        simp only [textBehind, mark, CallArgument.isCursor_iff] at behind
        simp only [List.nil_append, List.append_assoc, List.cons_append, stripped, mark,
          CallArgument.isCursor_iff, Nat.zero_add] at behind ⊢
        exact behind
  rw [run]
  rfl

/-! ## What has to be put out -/

/-- As many question marks, with a comma in front of each but, if none has been seen, the
first. -/
def wanted : Bool → Nat → List Char
  | _, 0 => []
  | seen, k + 1 => List.replicate seen.toNat ',' ++ '?' :: wanted true k

theorem intercalate_eq_wanted {α : Type} (xs : List α) :
    [','].intercalate (xs.map fun _ => ['?']) = wanted false xs.length := by
  have behind : ∀ xs : List α, (xs.map fun _ => ['?']).flatMap (',' :: ·) =
      wanted true xs.length := by
    intro xs
    induction xs with
    | nil => rfl
    | cons x xs ih =>
        rw [List.map_cons, List.flatMap_cons, ih]
        rfl
  cases xs with
  | nil => rfl
  | cons x xs =>
      rw [List.map_cons, intercalate_cons, behind]
      rfl

def others (xs : List CallArgument) : Nat := (xs.filter fun argument => ¬ argument.isCursor).length

theorem others_cons (x : CallArgument) (xs : List CallArgument) :
    others (x :: xs) = if x.isCursor then others xs else others xs + 1 := by
  rw [others, List.filter_cons]
  cases x.isCursor <;> rfl

theorem filter_mark (x : CallArgument) : (mark x).filter (· ≠ ' ') = mark x := by
  rw [mark]
  split_ifs <;> rfl

theorem filter_gap (x y : CallArgument) :
    (gap x y).filter (· ≠ ' ') = List.replicate (commaStays x y).toNat ',' := by
  rw [gap]
  cases commaStays x y <;> simp

theorem replicate_comma_inj {n m : Nat} {xs ys : List Char} :
    List.replicate n ',' ++ '?' :: xs = List.replicate m ',' ++ '?' :: ys ↔ n = m ∧ xs = ys := by
  induction n generalizing m with
  | zero =>
      cases m with
      | zero => simp
      | succ m => simp [List.replicate_succ]
  | succ n ih =>
      cases m with
      | zero => simp [List.replicate_succ]
      | succ m =>
          rw [List.replicate_succ, List.replicate_succ, List.cons_append, List.cons_append,
            List.cons_inj_right, ih, Nat.succ_inj]

/-- The commas fit when what is put out is what is wanted, by induction on the arguments; the
commas that were counted stand in front. -/
theorem commasFitBehind_iff {seen : Bool} {commas : Nat} (x : CallArgument)
    (ys : List CallArgument) :
    CommasFitBehind seen commas x ys ↔
      List.replicate commas ',' ++ (strippedBehind x ys).filter (· ≠ ' ') =
        wanted seen (others ys) := by
  induction ys generalizing seen commas x with
  | nil =>
      rw [CommasFitBehind, strippedBehind]
      simp [others, wanted]
  | cons y ys ih =>
      have visible : List.replicate commas ',' ++ (strippedBehind x (y :: ys)).filter (· ≠ ' ') =
          List.replicate (commas + (commaStays x y).toNat) ',' ++
            (mark y ++ (strippedBehind y ys).filter (· ≠ ' ')) := by
        rw [strippedBehind, List.filter_append, List.filter_append, filter_gap, filter_mark,
          List.replicate_add, List.append_assoc, List.append_assoc]
      rw [visible, others_cons]
      dsimp only [CommasFitBehind]
      by_cases cursor : y.isCursor = true
      · rw [if_pos cursor, if_pos cursor, ih, mark, if_pos cursor, List.nil_append]
      · rw [if_neg cursor, if_neg cursor, ih, mark, if_neg cursor, List.singleton_append, wanted,
          replicate_comma_inj, List.replicate_zero, List.nil_append]

theorem commasFit_iff (xs : List CallArgument) :
    CommasFit xs ↔ (stripped xs).filter (· ≠ ' ') = wanted false (others xs) := by
  cases xs with
  | nil => exact iff_of_true trivial rfl
  | cons x xs =>
      have visible : (stripped (x :: xs)).filter (· ≠ ' ') =
          mark x ++ (strippedBehind x xs).filter (· ≠ ' ') := by
        rw [stripped, List.filter_append, List.filter_append, filter_mark]
        simp
      rw [visible, CommasFit, commasFitBehind_iff, others_cons, List.replicate_zero,
        List.nil_append]
      cases cursor : x.isCursor with
      | true =>
          rw [mark, if_pos cursor]
          rfl
      | false =>
          rw [mark, if_neg (by simp [cursor])]
          show _ ↔ '?' :: _ = '?' :: wanted true (others xs)
          rw [List.cons_inj_right]
          rfl

/-- The cursors are taken out and one comma stays between every two of the other arguments
exactly when the commas fit. -/
theorem others_remain_iff (call : CallText) (directed : CursorsDirected call) :
    (∃ out, stripRefCursorPlaceholders call.text call.bound = .ok out ∧ OthersRemain call out) ↔
      CommasFit call.arguments := by
  rw [strip_text call directed, commasFit_iff]
  constructor
  · rintro ⟨out, put, list, same, remain⟩
    cases put
    rw [String.toList_ofList, List.append_cancel_left_eq, List.cons_inj_right,
      List.append_cancel_right_eq] at same
    rw [same, remain]
    exact intercalate_eq_wanted _
  · intro fits
    refine ⟨_, rfl, stripped call.arguments, String.toList_ofList, fits.trans ?_⟩
    exact (intercalate_eq_wanted _).symm

/-- Three arguments without blanks. -/
def threeArguments (first second third : BoundParam) : CallText where
  head := "call p".toList
  arguments := [⟨0, first, 0⟩, ⟨0, second, 0⟩, ⟨0, third, 0⟩]
  tail := []
  clean := by decide

def anInteger : BoundParam := ⟨.input, .integer 0⟩

def aCursor : BoundParam := ⟨.output, .refCursorOut⟩

theorem others_remain_iff_outer :
    ∃ out, stripRefCursorPlaceholders (threeArguments aCursor anInteger aCursor).text
      [aCursor, anInteger, aCursor] = .ok out ∧
        OthersRemain (threeArguments aCursor anInteger aCursor) out := by
  refine (others_remain_iff (threeArguments aCursor anInteger aCursor) ?_).mpr ?_
  · unfold CursorsDirected
    decide
  · exact ⟨rfl, rfl⟩

/-- A cursor between two other arguments takes both of its commas. -/
theorem commas_of_middle_cursor :
    ¬ ∀ call, CursorsDirected call → ∃ out,
      stripRefCursorPlaceholders call.text call.bound = .ok out ∧ OthersRemain call out := by
  intro remain
  obtain ⟨out, put, list, same, one⟩ := remain (threeArguments anInteger aCursor anInteger)
    (by unfold CursorsDirected; decide)
  have put' : stripRefCursorPlaceholders (threeArguments anInteger aCursor anInteger).text
      (threeArguments anInteger aCursor anInteger).bound = .ok "call p(??)" := by
    decide
  cases put'.symm.trans put
  have list' : list = "??".toList := by
    have inner : "call p".toList ++ '(' :: ("??".toList ++ ')' :: []) =
        "call p".toList ++ '(' :: (list ++ ')' :: []) := same
    rw [List.append_cancel_left_eq, List.cons_inj_right, List.append_cancel_right_eq] at inner
    exact inner.symm
  rw [list'] at one
  exact absurd one (by decide)

end OdbcFast.Verification
