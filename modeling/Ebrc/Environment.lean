import Ebrc.Crash
import Ebrc.Text.WordChar

/-!
# Environment variables and home directories

The values of file keywords may name variables, as `$NAME` or `${NAME}`, and may start with
the home directory, as `~`, or with that of a user, as `~NAME`. Defined variables are replaced
once, from left to right; what a value brings in is not replaced again. The home directory is
what the variable `HOME` says, and without it what the system says; those of users are what the
system says, which keeps one for each user that it knows.
-/

namespace Ebrc

/-- Variables and their values, and the home directories that the system keeps; of two entries for
one variable or one user the first counts. -/
structure Environment where
  bindings : List (Text × Text) := []
  /-- The home directory of the user who runs the program, if the system knows this user. -/
  ownHome : Option Text := none
  /-- The users that the system knows, and their home directories. -/
  userHomes : List (Text × Text) := []
  deriving Repr, DecidableEq

namespace Environment

/-- The value of a variable. -/
def get? (env : Environment) (name : Text) : Option Text := env.bindings.lookup name

/-- The reference to a variable that the text after a dollar sign starts with: a run of word
characters, or anything in braces, the braces included. -/
def reference? (isWord : Char → Bool) (t : Text) : Option Text :=
  match t.takeWhile isWord, t with
  | [], '{' :: t =>
    match Text.cut '}' t with
    | (name, some _) => some ('{' :: name ++ ['}'])
    | (_, none) => none
  | [], _ => none
  | name, _ => some name

/-- The name of a variable in a reference to it. -/
def referencedName : Text → Text
  | '{' :: t => t.dropLast
  | t => t

/-- Replace the defined variables of a text of which the first `skip` characters belong to a
reference already replaced. -/
def expandFrom (env : Environment) : Nat → Text → Text
  | _, [] => []
  | skip + 1, _ :: t => env.expandFrom skip t
  | 0, c :: t =>
    if c = '$' then
      match reference? Text.isAsciiWordChar t with
      | some reference =>
        match env.get? (referencedName reference) with
        | some value => value ++ env.expandFrom reference.length t
        | none => c :: reference ++ env.expandFrom reference.length t
      | none => c :: env.expandFrom 0 t
    else c :: env.expandFrom 0 t

/-- Replace the defined variables of a text. -/
def expand (env : Environment) (t : Text) : Text := env.expandFrom 0 t

/-- The first variable that a text still refers to, without the braces around it. -/
def remaining? : Text → Option Text
  | [] => none
  | c :: t =>
    match (if c = '$' then reference? Text.isWordChar t else none) with
    | some reference => some (Text.strip (fun c => c = '{' || c = '}') reference)
    | none => remaining? t

/-- The home directory as it is set or kept: that of a user, or without a name that of the user who
runs the program. -/
def keptHome? (env : Environment) (user : Text) : Option Text :=
  if user = [] then env.get? "HOME".toList <|> env.ownHome else env.userHomes.lookup user

/-- The home directory, without slashes at its end. -/
def homeOf? (env : Environment) (user : Text) : Option Text :=
  (env.keptHome? user).map fun home =>
    match Text.stripRight (· = '/') home with
    | [] => ['/']
    | t => t

/-- A path with the home directory in place of a leading tilde and the name of a user behind it. It
fails when nobody of that name is known, when nobody can have such a name, and when the home
directory starts with a tilde again. -/
def expandHome (env : Environment) (p : Path) : Except Crash Path :=
  match p.root, p.names with
  | .relative, ('~' :: user) :: names =>
    if user.contains '\x00' then .error (.file .badPath)
    else
      match env.homeOf? user with
      | none => .error .noHome
      | some home =>
        if home.head? = some '~' then .error .noHome
        else .ok (Path.ofText home ++ ⟨.relative, names⟩)
  | _, _ => .ok p

/-- The home directory of a user that the system knows. -/
example : ({ userHomes := [(['u'], "/home/u/".toList)] } : Environment).expandHome
    (.ofText "~u/x".toList) = .ok (.ofText "/home/u/x".toList) :=
  rfl

end Environment

end Ebrc
