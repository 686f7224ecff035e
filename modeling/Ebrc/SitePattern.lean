import Ebrc.Text.Glob
import Ebrc.Url

/-!
# Site patterns

A rule about sites names them by a domain pattern and, after a slash, the start of a path. The
labels of a domain pattern are globs. They match the last labels of a host, or labels anywhere
in it if the pattern ends in a dot. Letter case does not count.
-/

namespace Ebrc

namespace SitePattern

/-- The labels of a domain without the dots at its end. -/
def labels (domain : Text) : List Text := Text.split '.' (Text.stripRight (· = '.') domain)

/-- Does each label match its pattern? -/
def labelsMatch : List Text → List Text → Bool
  | pattern :: patterns, label :: rest => Glob.isMatch pattern label && labelsMatch patterns rest
  | _, _ => true

/-- Is there a place among the labels at which every pattern matches? -/
def matchesSomewhere (patterns : List Text) : List Text → Bool
  | [] => patterns.isEmpty
  | label :: rest =>
    (patterns.length ≤ rest.length + 1 && labelsMatch patterns (label :: rest)) ||
      matchesSomewhere patterns rest

/-- Does a host match a domain pattern? -/
def matchesHost (pattern host : Text) : Bool :=
  let pattern := Text.stripLeft (· = '.') (Text.lower pattern)
  let patterns := labels pattern
  let hostLabels := labels (Text.lower host)
  if pattern = [] then false
  else if hostLabels.length < patterns.length then false
  else if pattern.getLast? = some '.' then matchesSomewhere patterns hostLabels
  else labelsMatch patterns (hostLabels.drop (hostLabels.length - patterns.length))

/-- Does a URL match a site pattern? What is no URL matches nothing, and nothing matches an
empty pattern. -/
def matchesUrl (pattern url : Text) : Bool :=
  if pattern = [] then false
  else
    match Url.protocolAndHost url with
    | .error _ => false
    | .ok (_, host) =>
      match Text.cut '/' pattern with
      | (domain, some (c :: path)) =>
        matchesHost domain host && ('/' :: c :: path).isPrefixOf (Url.pathOf url)
      | (domain, _) => matchesHost domain host

end SitePattern

end Ebrc
