import ShaderSyntax.Host.Builtin.Basic

/-!
# Commands for folders

Where a session stands, and how files are made.
-/

set_option autoImplicit false

namespace ShaderSyntax.Host

/-- The options of commands that go to a folder. -/
def folderOptions : List OptionRule := [letterRule false 'L', letterRule false 'P']

/-- Goes to a folder, if there is one. -/
def Session.goTo (session : Session) (path : String) : Session :=
  match session.tree.resolve path with
  | .error _ => session.refuse s!"can't cd to {path}"
  | .ok place =>
    if !session.tree.isFolder place then session.refuse s!"can't cd to {path}"
    else
      let settings := (session.settings.put "OLDPWD" (pathOfPlace session.tree.home)).put "PWD"
        (pathOfPlace place)
      { session with tree := { session.tree with home := place }, settings, code := 0 }

/-- Goes to a folder: a given one, the one before, or the one that is home. -/
def changeFolder : Builtin :=
  withOptions folderOptions Session.refuse fun read session =>
    let stay := pathOfPlace session.tree.home
    match read.operands with
    | [] => session.goTo ((session.settings.get? "HOME").getD stay)
    | "" :: _ => session.withCode 0
    | "-" :: _ =>
      let session := session.goTo ((session.settings.get? "OLDPWD").getD stay)
      session.print (.ofText (pathOfPlace session.tree.home ++ "\n"))
    | path :: _ => session.goTo path

/-- Tells where the session stands. -/
def tellFolder : Builtin :=
  withOptions folderOptions Session.refuse fun _ session =>
    (session.print (.ofText (pathOfPlace session.tree.home ++ "\n"))).withCode 0

/-- Tells with which permissions files are not made. -/
def showMask : Builtin := fun arguments session =>
  (if arguments.isEmpty then session.print (.ofText "0022\n") else session).withCode 0

end ShaderSyntax.Host
