import LoxTokens.Text.ClusterRole

/-! # Clusters

`Text.clusters` cuts a text into what readers take for its characters, the extended grapheme
clusters of Unicode.  Whether a character goes on a cluster depends on nothing but the roles of
the characters already in it (`ClusterRole.joins`). -/

namespace LoxTokens

namespace ClusterRole

def isControl : ClusterRole → Bool
  | carriageReturn | lineFeed | control => true
  | _ => false

/-- Whether a character goes with the one before it wherever it stands. -/
def isAttached : ClusterRole → Bool
  | extender | linker | nonJoiner | joiner | spacingMark => true
  | _ => false

/-- Whether a character lets a linker before or after it reach the next consonant. -/
def isTransparent : ClusterRole → Bool
  | extender | linker | joiner => true
  | _ => false

/-- Whether a character may stand between a picture and what joins it to the next one. -/
def isModifier : ClusterRole → Bool
  | extender | linker | nonJoiner => true
  | _ => false

/-- Whether two letters of a Hangul syllable belong together. -/
def composes : ClusterRole → ClusterRole → Bool
  | leading, leading | leading, vowel | leading, openSyllable | leading, closedSyllable => true
  | openSyllable, vowel | openSyllable, trailing | vowel, vowel | vowel, trailing => true
  | closedSyllable, trailing | trailing, trailing => true
  | _, _ => false

/-- Whether a cluster, given by its roles from the last one back, ends with a consonant that a
linker joins to the next one. -/
def linksConsonant (cluster : List ClusterRole) : Bool :=
  (cluster.takeWhile isTransparent).contains linker &&
    (cluster.dropWhile isTransparent).head? == some consonant

/-- Whether a cluster ends with a picture that a joiner joins to the next one. -/
def joinsPictograph : List ClusterRole → Bool
  | joiner :: before => (before.dropWhile isModifier).head? == some pictograph
  | _ => false

/-- Whether a cluster ends with half a flag that has no other half. -/
def wantsRegional (cluster : List ClusterRole) : Bool :=
  (cluster.takeWhile (· == regional)).length % 2 == 1

/-- Whether a character goes on a cluster, which is given by its roles from the last one back. -/
def joins (cluster : List ClusterRole) (next : ClusterRole) : Bool :=
  match cluster with
  | [] => true
  | last :: _ =>
    if last.isControl || next.isControl then last == carriageReturn && next == lineFeed
    else
      next.isAttached || last == prepended || composes last next ||
        (match next with
          | consonant => linksConsonant cluster
          | pictograph => joinsPictograph cluster
          | regional => wantsRegional cluster
          | _ => false)

end ClusterRole

namespace Text

/-- The clusters of a text that goes on a cluster begun before it.  The begun cluster and its
roles are given from the last character back. -/
def clustersFrom (begun : Text) (roles : List ClusterRole) : Text → List Text
  | [] => [begun.reverse]
  | c :: t =>
    let role := ClusterRole.of c
    if ClusterRole.joins roles role then clustersFrom (c :: begun) (role :: roles) t
    else begun.reverse :: clustersFrom [c] [role] t

/-- The clusters of a text. -/
def clusters : Text → List Text
  | [] => []
  | c :: t => clustersFrom [c] [ClusterRole.of c] t

end Text
end LoxTokens
