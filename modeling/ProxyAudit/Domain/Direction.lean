import ProxyAudit.Text.CodePoints

/-!
# Direction of labels

A domain name that holds a character written from right to left must not be ambiguous on the
screen (the Bidi rule of RFC 5893): each label starts with a letter, keeps to the characters of
its direction, and ends in a letter or a number, marks aside.
-/

namespace ProxyAudit.Domain

open Text

/-- The classes of characters that the rule tells apart. -/
inductive Direction where
  /-- Letters written from left to right. -/
  | left
  /-- Letters written from right to left. -/
  | right
  /-- Digits of Arabic script. -/
  | arabicNumber
  /-- European digits. -/
  | europeanNumber
  /-- Punctuation and symbols that take the direction around them. -/
  | neutral
  /-- Marks that do not advance. -/
  | mark
  /-- Characters that no label of a directed name holds. -/
  | outside
  deriving DecidableEq, Repr

/-- The class that a letter stands for in the table. -/
def Direction.ofMark : List Char → Direction
  | ['L'] => .left
  | ['R'] => .right
  | ['Y'] => .arabicNumber
  | ['Z'] => .europeanNumber
  | ['N'] => .neutral
  | ['M'] => .mark
  | _ => .outside

/-- The classes of all characters. -/
def directions : CharClasses Direction := CharClasses.ofText Direction.ofMark "
0N 9X 5N eX 5N fZ aN 7L 1aN 6L 1aN aX 1N 24L 1N 7Z 2N 1L 1N 3Z 1L 1N 5L 17N 1L 1fN 1L 1c1N 2L 7N
eL 2N eL 5N 9L 1N 11M 70L 4N 2L 8N 1L 5N 2L 1N 1L 6eN 1L 8cM 7L 100N 1L 2N 3R 1M 2dR 1M 1R 1M 2R
1M 2R 1M 1R 38Y 6N 2R 1N 2R 1N 1R 1N 2M bR 30M 15Y aN 1Y 2R 3M 1R 65M 7Y 1N 1M 6R 2M 2N 1M 4R 2Z
aR 17M 1R 1eM 1bR 5bM bR 3aM 9R 2N 4R 3M 1R 18M 4R 1M 9R 1M 3R 1M 5R 2bM 3R 34Y 2R 5M 9R 2aM 18Y
1M 20L 37M 1L 1M 1L 4M 8L 4M 1L 3M 7L aM 2L 1dM 1L 3aM 1L 4M 4L 8M 1L 14M 2L eN 2L 7N 1L 2M 1L 2M
2L 39M 1L 4M 2L 4M 2L 2M 3L 3M 1L 1eM 2L 3M 1L bM 2L 39M 1L 4M 5L 1M 2L 4M 1L 14M 2L dN 1L 8M 6L
1M 1L 3aM 1L 2M 1L 1M 4L 8M 1L 7M 2L bM 2L 1eM 1L 3dM 1L cM 1L 25N 8L 5M 1L 3M 1L 37M 1L 1M 3L 5M
3L 1M 4L 7M 2L bM 2L 14N 7L 2M 1L 3aM 1L fM 2L 14M 2L 1cM 2L 39M 2L 4M 4L 8M 1L 14M 2L 1dM 1L 48M
1L 7M 3L 1M 1L 5aM 1L 2M 7L 4N 1L 7M 8L 62M 1L 2M 9L bM 7L 49M 2L 1bM 1L 1M 1L 1M 1N 4L 33M eL 1M
5L 1M 2L 5M bL 1M 24L 9M 1L 66M 4L 1M 6L 1M 2L 2M 2L 19M 2L 4M 3L 10M 4L dM 1L 2M 2L 6M 1L fM 1L
2bfM 3L 30N aL 66N 1L 27fX 1L 1aN 2L 75M 3L 1dM 2L 1eM 2L 1eM 2L 40M 2L 1M 7L 8M 1L 2M bL 7N 1L 1M
1L 12N aL 6N bM 3N 1M 1L 75M 2L 22M 1L 76M 3L 4M 2L 9M 1L 6M 3L 4N 1L 3N 2L 98N 22L 17M 2L 2M 1L
3aM 1L 1M 7L 1M 1L 1M 1L 2M 8L 6M aL 2M 1L 30M 1fL 31M 4L 30M 1L 1M 5L 1M 1L 5M 1L 28M 9L cM 2L
20M 4L 2M 2L 1M 3L 38M 1L 1M 2L 3M 1L 1M 3L 3aM 8L 2M 2L 98M 3L 1M dL 1M 7L 4M 1L 6M 1L 3M 2L c6M
40L 1bdN 1L 1N 3L bN 3L dN 3L dN 3L dN 2L 1X bN 3L 1R 1N 18X 7N 30X 1N 6X 4N 6Z 1L 3Z 6N 5L 1Z aN
5L 11N 30M 21L fN 2L 1N 4L 1N 2L aN 1L 1N 3L 5N 6L 1N 1L 1N 1L 1N 1L 4N 1L bN 2L 4N 5L 5N 4L 2N
10L 29N 3L 4N 1a6L 45N 1aL 1N 94L 16N bL 15N 28Z 14L 4eN 1c2L 1N 153L 100N 274L 2N 20L 1N 69L e5N
6L 4M 3L 7N 7L 7fM 1L 60M 20N 5eL 22N 1aL 1N 59L cN d6L 1aN cL 4X 1N 4L 3N 19L 9M 4L 2N 1L 5N 2L
5N 3L 59M 2N 2L 3N 1L 5aN 1L c4N 26L 37N 2L 31N 10L 1cN 3L 32N fL cN 4L a7N 4L 63N 2L 1fN 1L 19c0N
40L 5690N 37L 146N 3L 5fM 4N 1M aN 2L 1eM 2L 50M 2L eN 22L 66N 1L 79M 1L 3M 1L 4M 1L 19M 2L 1N 4M
1L bN 2L 3aN 4L 4cM 2L 1aM 12L dM 1L 26M 8L 19M bL 2eM 3L 30M 1L 2M 4L 2M 2L 27M 1L 43M 6L 2M 2L
2M 2L cM 1L 8M 1L 2fM 1L 33M 1L 1M 3L 2M 2L 5M 2L 1M 1L 2aM 2L 8M 1L 73N 2L 79M 1L 2M 1L 4M 1L
4f2fR 1M 1R aN 1R 214N 12R 7fN 21R dN 3M 10N aL 6M 10N 23L 1N 13L 1N 4L 4R 8fN 1L 1N fZ aN 7L 1aN
6L 1aN bL 7aN 7L 1N 7L 1N 10L 101N 1L 3eN 4dL 3N dL 3N 1L 5cM 1L e2M 1Z 1bL 7aM 5L 485R 11fN 1R
e1M 3R 1M 2R 5M 4R 28M 3R 4M 1R a5M 2R 52N 7R 1e4M 4R 8Y aR 2fM 5N 1R f1Y 1fR 2cM 2R 4fM 4R 46M bR
31M 4R 7aL 1M 1L 36M fL bN 14L aM 1L 2M 2L aM 3L 31M 4L 2M 2L 7M 1L 3dM 3L 24M 5L 1M 8L 3eM 1L cM
2L 34M 9L aM 4L 2M 1L 5fM 3L 2M 1L 1M 2L 6M 1L 2M 1L 9dM 1L 3M 8L 15M 2L 39M 2L 3M 1L 25M 7L 3M 5L
46M 6L dM 1L 1M 1L 1M 1L eM 2L 55M 8L 2M 3L 1M 1L 17M 1L 54M 6L 1M 1L 4M 2L 1M 2L eeM 4L 6M 2L 1M
2L 1bM 2L 55M 8L 2M 1L 1M 2L 1fN dL 3eM 1L 1M 1L 2M 6L 1M 1L 65M 3L 2M 4L 1M 5L 103M 9L 1M 2L 100M
2L 1M 1L 4M 1L 90M 4L 2M 2L 4M 1L 20M 6L 2M 2L 28M 6L 2M 4L 8M 1L 9M 6L 2M 3L 2eM dL 1M 2L 196M 7L
1M 6L 54M 16L 2M 7L 1M 2L 1M 2L 7aM 6L 3M 1L 1M 2L 1M 7L 1M 1L 48M 2L 3M 1L 1M 1L 15bM 2L bM 2L
34M 5L 5M 1L 1M 1L 17M 1L 7aN 1dL 144eM 1L 6M fL 2cc8M cL 3M 3L 9c0M 5L 3bM 7L 418M 1L 3fM 4L 4fN
1L 1M 1L 4cb8M 2L 1N 4L f5cN b4L 3cZ aL 6N 1b4L 4cM 2eL 2M 17L 220M 3L 9N 8M 8L 2M 7L 1eM 4L 3bN
2L 15N 42M 3N 1L baN 57L 384N 1L 39N 1L 39N 1L 39N 1L 39N 1L aZ 32L 200M 37L 4M 32L 8M 1L eM 1L
16M 5L 1M fL 550M 7L 1M 11L 2M 7L 1M 2L 1M 5L 64M 1L a0M 7L 177M 1L 3dM 4L fN 1L 1ecM 4L feM 2L
210R d0M 7R 6dM 7R 5a5N 2R 10eN 2cL 4N 64L cN fL 2N fL 1N fL 1N 25L aZ bN 5L 1fN 1L 3aN 6L 3dN 1L
b2N 6L 9aN 3d8L 4N 11L 3N dL 3N 77L 4N 5fL 6N cL 4N 1L fN cL 4N 38L 8N aL 6N 28L 8N 1eL 2N cL 4N
2L 3eN 154L cN eL 2N dL 3N aL 5N 38L 7N fL 2N bL 6N 9L 7N 93L 1N 5cZ aL 404N 2L fffeN 2L fffeN 2L
fffeN 2L fffeN 2L fffeN 2L fffeN 2L fffeN 2L fffeN 2L fffeN 2L fffeN 2L fffeN 2L fffeN 102M f0N
e10L effeN 2L fffeN 2L fffeN"

/-- The class of a character. -/
def directionOf (c : Char) : Direction :=
  directions.classOf c .outside

/-- A name with such a character is subject to the rule. -/
def isRightToLeft (c : Char) : Bool :=
  match directionOf c with
  | .right | .arabicNumber => true
  | _ => false

/-- The rule for a label from right to left, given its classes after the first. -/
def allowsRightToLeft (ds : List Direction) : Bool :=
  let ending := (ds.reverse.dropWhile (· == .mark)).headD .right
  ds.all (fun d => d != .left && d != .outside)
    && (ending == .right || ending == .europeanNumber || ending == .arabicNumber)
    && !(ds.contains .europeanNumber && ds.contains .arabicNumber)

/-- The rule for a label from left to right, given its classes after the first. -/
def allowsLeftToRight (ds : List Direction) : Bool :=
  let ending := (ds.reverse.dropWhile (· == .mark)).headD .left
  ds.all (fun d => d != .right && d != .arabicNumber && d != .outside)
    && (ending == .left || ending == .europeanNumber)

/-- The rule for one label; an empty label obeys it. -/
def obeysBidiRule (label : List Char) : Bool :=
  match label.map directionOf with
  | [] => true
  | .left :: ds => allowsLeftToRight ds
  | .right :: ds => allowsRightToLeft ds
  | _ => false

end ProxyAudit.Domain
