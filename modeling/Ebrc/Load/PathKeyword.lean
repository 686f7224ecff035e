import Ebrc.Load.Progress

/-!
# Keywords with paths

A path may refer to variables and to the home directory. A reference to a variable that is not
defined makes the keyword count for nothing: its former value is forgotten all the same. A path
must lead to a directory or to a file, as the keyword has it; a missing cookie jar, and a
missing directory for unread mail, are made.
-/

namespace Ebrc

namespace Progress

/-- The path that a value names, unless it refers to a variable that is not defined. -/
def expandPath (env : Environment) (here : Position) (v : Text) (p : Progress) :
    Except Stop (Option Path × Progress) :=
  let expanded := env.expand v
  match Environment.remaining? expanded with
  | some name => .ok (none, p.tell (.undefinedVariable here.file here.line name))
  | none =>
    match env.expandHome (Path.ofText expanded) with
    | .ok path => .ok (some path, p)
    | .error reason => p.crash reason

/-- Do something with the path that a value names, if it names one. -/
def withPath (env : Environment) (here : Position) (v : Text) (p : Progress)
    (act : Path → Progress → Except Stop Progress) : Except Stop Progress := do
  match ← p.expandPath env here v with
  | (none, p) => .ok p
  | (some path, p) => act path p

/-- Stop unless a path leads to a directory. -/
def requireDirectory (here : Position) (path : Path) (p : Progress) : Except Stop Unit := do
  if ← p.orCrash (p.files.isDirectory path) then .ok () else p.stop here (.notDirectory path)

/-- Stop unless a path leads to a file. -/
def requireFile (here : Position) (role : FileRole) (path : Path) (p : Progress) :
    Except Stop Unit := do
  if ← p.orCrash (p.files.isFile path) then .ok () else p.stop here (.notRegularFile role path)

/-- Stop if a path leads to something that is no file. -/
def requireFileOrNothing (here : Position) (role : FileRole) (path : Path) (p : Progress) :
    Except Stop Unit := do
  if ← p.orCrash (p.files.pathExists path) then p.requireFile here role path else .ok ()

/-- Set the directory for downloads. -/
def setDownloadDir (env : Environment) (here : Position) (v : Text) (p : Progress) :
    Except Stop Progress :=
  (p.modify fun s => { s with downloadDir := none }).withPath env here v fun path p => do
    p.requireDirectory here path
    .ok (p.modify fun s => { s with downloadDir := some path })

/-- Make the directory for unread mail, unless it is there. -/
def makeUnread (here : Position) (unread : Path) (p : Progress) : Except Stop Progress := do
  if ← p.orCrash (p.files.isDirectory unread) then .ok p
  else
    match p.files.makeDirectory unread with
    | .ok files => .ok { p with files }
    | .error .badPath => p.crash (.file .badPath)
    | .error _ => p.stop here (.notDirectory unread)

/-- Set the directory for mail, and with it those for unread mail and for replies. -/
def setMailDir (env : Environment) (here : Position) (v : Text) (p : Progress) :
    Except Stop Progress :=
  let cleared := p.modify fun s =>
    { s with mailDir := none, mailUnread := none, mailReply := none }
  cleared.withPath env here v fun path p => do
    p.requireDirectory here path
    let unread := path.child "unread".toList
    let p ← p.makeUnread here unread
    .ok (p.modify fun s =>
      { s with
        mailDir := some path
        mailUnread := some unread
        mailReply := some (path.child ".reply".toList) })

/-- Set the cookie jar. -/
def setCookieJar (env : Environment) (here : Position) (v : Text) (p : Progress) :
    Except Stop Progress :=
  (p.modify fun s => { s with cookieJar := none }).withPath env here v fun path p => do
    p.requireFileOrNothing here .cookieJar path
    match p.files.openForAppend path with
    | .ok files => .ok ({ p with files }.modify fun s => { s with cookieJar := some path })
    | .error .badPath => p.crash (.file .badPath)
    | .error _ => p.stop here (.cookieJarNotWritable path)

/-- Set the file of certificates. -/
def setCertificates (env : Environment) (here : Position) (v : Text) (p : Progress) :
    Except Stop Progress :=
  (p.modify fun s => { s with certificates := none }).withPath env here v fun path p => do
    p.requireFileOrNothing here .certificates path
    if ← p.orCrash (p.files.canRead path) then
      .ok (p.modify fun s => { s with certificates := some path })
    else p.stop here (.certificatesNotReadable path)

/-- Set the address book. -/
def setAddressBook (env : Environment) (here : Position) (v : Text) (p : Progress) :
    Except Stop Progress :=
  (p.modify fun s => { s with addressBook := none }).withPath env here v fun path p => do
    p.requireFile here .addressBook path
    .ok (p.modify fun s => { s with addressBook := some path })

/-- Set the file of emojis. -/
def setEmojis (env : Environment) (here : Position) (v : Text) (p : Progress) :
    Except Stop Progress :=
  (p.modify fun s => { s with emojis := none }).withPath env here v fun path p => do
    p.requireFile here .emojis path
    .ok (p.modify fun s => { s with emojis := some path })

end Progress

end Ebrc
