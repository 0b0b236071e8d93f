import ShaderSyntax.Host.Expansion
import ShaderSyntax.Host.Tool.Basic

/-!
# Redirections

Redirections change what descriptors read and write. They hold while something runs, one after the
other from the left to the right; if one of them cannot be, nothing runs.
-/

set_option autoImplicit false

namespace ShaderSyntax.Host

/-- Why a redirection cannot be, and whether the script ends there in any case. -/
structure RedirectionFault where
  text : String
  ends : Bool
  deriving DecidableEq, Repr

/-- The fault of a file that cannot be opened, with the words for one that is missing. -/
def RedirectionFault.ofFile (action path missing : String) : FileFault → RedirectionFault
  | .missing => ⟨s!"{action} {path}: {missing}", false⟩
  | .notAFolder => ⟨s!"{action} {path}: {missing}", false⟩
  | fault => ⟨s!"{action} {path}: {shortMessage fault}", false⟩

/-- The descriptor that a device stands for. -/
def deviceDescriptor? (path : String) : Option Nat :=
  match path with
  | "/dev/stdin" => some 0
  | "/dev/stdout" => some 1
  | "/dev/stderr" => some 2
  | _ => if path.startsWith "/dev/fd/" then (path.drop 8).toString.toNat? else none

/-- Lets a descriptor read a file. -/
def Session.readFrom (session : Session) (descriptor : Nat) (path : String) (makes : Bool) :
    Except RedirectionFault Session :=
  let fault := RedirectionFault.ofFile "cannot open" path "No such file"
  match deviceDescriptor? path with
  | some source =>
    match session.input? source with
    | some input => .ok (session.setInput descriptor input)
    | none => .error (fault .missing)
  | none =>
    match openFile session.tree path with
    | .ok stream => .ok (session.setInput descriptor stream)
    | .error .isAFolder => .ok (session.setInput descriptor .empty)
    | .error .missing =>
      if makes then
        match session.tree.writeBytes path .empty with
        | .ok tree => .ok ({ session with tree }.setInput descriptor .empty)
        | .error problem => .error (.ofFile "cannot create" path "Directory nonexistent" problem)
      else .error (fault .missing)
    | .error problem => .error (fault problem)

/-- The sink of a file. -/
def sinkOfFile (tree : FileTree) (path : String) : Sink :=
  match tree.resolve path with
  | .ok place => if (tree.lookup? place).any FileEntry.isVoid then .nowhere else .file place
  | .error _ => .nowhere

/-- Lets a descriptor write a file, behind what it holds or in place of it. -/
def Session.writeInto (session : Session) (descriptor : Nat) (path : String) (atEnd force : Bool) :
    Except RedirectionFault Session :=
  let fault := RedirectionFault.ofFile "cannot create" path "Directory nonexistent"
  let isThere := match session.tree.find path with
    | .ok (.file _) => true
    | _ => false
  match deviceDescriptor? path with
  | some source =>
    match session.sink? source with
    | some sink => .ok (session.setSink descriptor sink)
    | none => .error (fault .missing)
  | none =>
    if isThere && session.options.keepsFiles && !force && !atEnd then
      .error ⟨s!"cannot create {path}: File exists", false⟩
    else
      let old := if atEnd then (session.tree.readBytes path).toOption.getD .empty else .empty
      match session.tree.writeBytes path old with
      | .ok tree => .ok ({ session with tree }.setSink descriptor (sinkOfFile tree path))
      | .error problem => .error (fault problem)

/-- Makes a descriptor the same as another one. -/
def Session.copyDescriptor (session : Session) (descriptor source : Nat) :
    Except RedirectionFault Session :=
  match session.input? source, session.sink? source with
  | some input, none =>
    let session := session.setInput descriptor input
    .ok (if descriptor = 0 && source ≠ 0 then { session with inputSource := some source }
      else session)
  | _, some sink =>
    .ok (if descriptor = 0 then session.setInput 0 .empty else session.setSink descriptor sink)
  | none, none => .error ⟨s!"{source}: Bad file descriptor", false⟩

/-- A session with a redirection in force, or why it cannot be. -/
def redirect (run : Runner) (session : Session) :
    Redirection → Except RedirectionFault Session
  | .read descriptor path makes =>
    let (path, session) := expandText run session path
    if session.stops then .ok session else session.readFrom descriptor path makes
  | .text descriptor content =>
    let (text, session) := expandText run session content
    .ok (session.setInput descriptor (.ofText text))
  | .write descriptor path force =>
    let (path, session) := expandText run session path
    if session.stops then .ok session else session.writeInto descriptor path false force
  | .append descriptor path =>
    let (path, session) := expandText run session path
    if session.stops then .ok session else session.writeInto descriptor path true false
  | .copy descriptor source =>
    let (source, session) := expandText run session source
    if session.stops then .ok session
    else if source = "-" then .ok (session.close descriptor)
    else match source.toList with
      | [digit] =>
        if digit.isDigit then session.copyDescriptor descriptor (Numeral.digitsValue [digit])
        else .error ⟨"Syntax error: Bad fd number", true⟩
      | _ => .error ⟨"Syntax error: Bad fd number", true⟩

/-- A session with redirections in force, one after the other. -/
def redirectAll (run : Runner) (session : Session) :
    List Redirection → Except RedirectionFault Session
  | [] => .ok session
  | first :: rest =>
    match redirect run session first with
    | .error fault => .error fault
    | .ok session => if session.stops then .ok session else redirectAll run session rest

/-- The descriptor that a redirection changes. -/
def Redirection.descriptor : Redirection → Nat
  | .read descriptor _ _ => descriptor
  | .text descriptor _ => descriptor
  | .write descriptor _ _ => descriptor
  | .append descriptor _ => descriptor
  | .copy descriptor _ => descriptor

/-- A session behind redirections that held only for a while. What was left of a descriptor's input
that was read in place of the session's own is there for the next one that reads it. -/
def Session.withoutRedirections (session inside after : Session)
    (redirections : List Redirection) : Session :=
  let changed := redirections.any (·.descriptor = 0)
  let otherInputs := match if changed then inside.inputSource else none with
    | some source => (after.setInput source after.input).otherInputs
    | none => after.otherInputs
  let kept (descriptor : Nat) := !redirections.any (·.descriptor = descriptor)
  { after with
    outputSink := session.outputSink
    errorSink := session.errorSink
    otherSinks := session.otherSinks
    otherInputs := otherInputs.filter (fun other => kept other.1) ++
      session.otherInputs.filter fun other => !kept other.1
    input := if changed then session.input else after.input
    inputSource := session.inputSource }

/-- What happens to a session whose redirections cannot be. -/
def Session.failRedirection (session : Session) (ends : Bool) (fault : RedirectionFault) :
    Session :=
  if ends || fault.ends then session.abort fault.text else session.refuse fault.text

/-- Runs something while redirections are in force. `ends` says that the script ends if they cannot
be. -/
def withRedirections (run : Runner) (ends : Bool) (redirections : List Redirection)
    (body : Session → Session) (session : Session) : Session :=
  match redirectAll run session redirections with
  | .error fault => session.failRedirection ends fault
  | .ok inside =>
    let after := if inside.stops then inside else body inside
    session.withoutRedirections inside after redirections

end ShaderSyntax.Host
