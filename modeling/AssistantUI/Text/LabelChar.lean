import AssistantUI.Text.Runs

/-!
# Characters of labels

A label is a part of a name that means a place in a network. It may be in any script, but
only letters, digits and marks can stand in it, in their lower-case form where there is one,
and no characters that are mere variants of others. Some scripts join their letters, which
matters where a character that parts or joins them may stand. Characters are those of
version 14 of the character standard.
-/

namespace AssistantUI.Text

/-- Characters that can stand anywhere in a label, as run lengths from code point 0. -/
def labelRuns : List Nat :=
  [45, 1, 2, 10, 39, 26, 100, 24, 1, 8, 1, 1, 1, 1, 1, 1, 1, 1, 1, 1, 1, 1, 1, 1, 1, 1, 1, 1, 1, 1,
   1, 1, 1, 1, 1, 1, 1, 1, 1, 1, 1, 1, 1, 1, 1, 1, 1, 1, 1, 1, 1, 1, 1, 1, 1, 1, 1, 1, 1, 1, 3, 1,
   1, 2, 1, 1, 1, 1, 1, 1, 3, 1, 1, 1, 1, 1, 1, 1, 2, 1, 1, 1, 1, 1, 1, 1, 1, 1, 1, 1, 1, 1, 1, 1,
   1, 1, 1, 1, 1, 1, 1, 1, 1, 1, 1, 1, 1, 1, 1, 1, 1, 1, 1, 1, 1, 1, 1, 1, 1, 1, 1, 1, 1, 1, 2, 1,
   1, 1, 1, 1, 1, 1, 2, 1, 1, 1, 2, 1, 3, 2, 4, 1, 2, 1, 3, 3, 2, 1, 2, 1, 1, 1, 1, 1, 2, 1, 1, 2,
   1, 1, 2, 1, 3, 1, 1, 1, 2, 3, 1, 7, 10, 1, 1, 1, 1, 1, 1, 1, 1, 1, 1, 1, 1, 1, 1, 2, 1, 1, 1, 1,
   1, 1, 1, 1, 1, 1, 1, 1, 1, 1, 1, 1, 1, 2, 4, 1, 3, 1, 1, 1, 1, 1, 1, 1, 1, 1, 1, 1, 1, 1, 1, 1,
   1, 1, 1, 1, 1, 1, 1, 1, 1, 1, 1, 1, 1, 1, 1, 1, 1, 1, 1, 1, 1, 1, 1, 1, 1, 1, 1, 1, 1, 1, 1, 1,
   1, 1, 1, 1, 1, 1, 1, 1, 1, 1, 1, 7, 2, 1, 2, 2, 1, 1, 4, 1, 1, 1, 1, 1, 1, 1, 1, 97, 9, 9, 4,
   12, 26, 1, 1, 1, 17, 64, 2, 1, 3, 9, 1, 32, 1, 1, 1, 1, 3, 1, 3, 3, 18, 1, 27, 35, 8, 1, 1, 1,
   1, 1, 1, 1, 1, 1, 1, 1, 1, 1, 1, 1, 1, 1, 1, 1, 1, 1, 1, 1, 1, 1, 3, 1, 4, 1, 2, 2, 51, 48, 1,
   1, 1, 1, 1, 1, 1, 1, 1, 1, 1, 1, 1, 1, 1, 1, 1, 1, 1, 1, 1, 1, 1, 1, 1, 1, 1, 1, 1, 1, 1, 1, 1,
   1, 1, 5, 3, 1, 1, 1, 1, 1, 1, 1, 1, 1, 1, 1, 1, 1, 1, 1, 1, 1, 1, 1, 1, 1, 1, 1, 1, 1, 1, 1, 1,
   1, 1, 1, 1, 1, 1, 1, 1, 1, 1, 1, 1, 1, 1, 1, 1, 1, 1, 1, 1, 1, 1, 1, 1, 1, 2, 1, 1, 1, 1, 1, 1,
   1, 1, 1, 1, 1, 1, 2, 1, 1, 1, 1, 1, 1, 1, 1, 1, 1, 1, 1, 1, 1, 1, 1, 1, 1, 1, 1, 1, 1, 1, 1, 1,
   1, 1, 1, 1, 1, 1, 1, 1, 1, 1, 1, 1, 1, 1, 1, 1, 1, 1, 1, 1, 1, 1, 1, 1, 1, 1, 1, 1, 1, 1, 1, 1,
   1, 1, 1, 1, 1, 1, 1, 1, 1, 1, 1, 1, 1, 1, 1, 1, 1, 1, 1, 1, 1, 1, 1, 1, 1, 1, 1, 1, 1, 1, 1, 1,
   1, 1, 1, 1, 1, 1, 1, 41, 1, 6, 39, 1, 1, 8, 45, 1, 1, 1, 2, 1, 2, 1, 1, 8, 27, 4, 4, 29, 11, 5,
   32, 1, 31, 14, 7, 4, 91, 1, 8, 2, 10, 1, 6, 10, 6, 16, 59, 2, 101, 14, 54, 7, 1, 2, 46, 18, 28,
   4, 11, 5, 24, 1, 6, 9, 74, 1, 117, 8, 4, 2, 10, 1, 19, 1, 8, 2, 2, 2, 22, 1, 7, 1, 1, 3, 4, 2,
   9, 2, 2, 2, 4, 8, 1, 8, 4, 2, 12, 10, 1, 1, 1, 2, 3, 1, 6, 4, 2, 2, 22, 1, 7, 1, 1, 2, 1, 2, 2,
   2, 1, 1, 5, 4, 2, 2, 3, 3, 1, 10, 1, 9, 16, 11, 3, 1, 9, 1, 3, 1, 22, 1, 7, 1, 2, 1, 5, 2, 10,
   1, 3, 1, 3, 2, 1, 15, 4, 2, 10, 9, 7, 1, 3, 1, 8, 2, 2, 2, 22, 1, 7, 1, 2, 1, 5, 2, 9, 2, 2, 2,
   3, 7, 3, 7, 5, 2, 10, 1, 1, 16, 2, 1, 6, 3, 3, 1, 4, 3, 2, 1, 1, 1, 2, 3, 2, 3, 3, 3, 12, 4, 5,
   3, 3, 1, 4, 2, 1, 6, 1, 14, 10, 16, 13, 1, 3, 1, 23, 1, 16, 2, 9, 1, 3, 1, 4, 7, 2, 1, 3, 2, 1,
   2, 4, 2, 10, 16, 4, 1, 8, 1, 3, 1, 23, 1, 10, 1, 5, 2, 9, 1, 3, 1, 4, 7, 2, 6, 2, 1, 4, 2, 10,
   1, 2, 13, 13, 1, 3, 1, 51, 1, 3, 1, 5, 5, 4, 7, 5, 2, 10, 10, 6, 1, 3, 1, 18, 3, 24, 1, 9, 1, 1,
   2, 7, 3, 1, 4, 6, 1, 1, 1, 8, 6, 10, 2, 2, 13, 50, 1, 7, 5, 15, 1, 10, 39, 2, 1, 1, 1, 5, 1, 24,
   1, 1, 1, 12, 1, 10, 2, 5, 1, 1, 1, 6, 2, 10, 4, 2, 32, 1, 10, 1, 12, 2, 6, 10, 11, 1, 1, 1, 1,
   1, 4, 5, 1, 4, 1, 4, 1, 4, 1, 4, 1, 4, 1, 12, 1, 3, 4, 2, 1, 1, 5, 7, 1, 3, 1, 13, 1, 4, 1, 4,
   1, 4, 1, 4, 1, 4, 1, 12, 1, 3, 9, 1, 57, 74, 6, 78, 50, 43, 2, 3, 256, 73, 1, 4, 2, 7, 1, 1, 1,
   4, 2, 41, 1, 4, 2, 33, 1, 4, 2, 7, 1, 1, 1, 4, 2, 15, 1, 57, 1, 4, 2, 67, 2, 3, 32, 16, 16, 86,
   11, 620, 2, 17, 1, 26, 5, 75, 6, 8, 7, 22, 9, 22, 11, 20, 12, 13, 1, 3, 1, 2, 12, 52, 2, 30, 3,
   1, 4, 2, 2, 10, 38, 10, 6, 89, 7, 43, 5, 70, 10, 31, 1, 12, 4, 12, 10, 40, 2, 5, 11, 44, 4, 26,
   6, 10, 38, 28, 4, 63, 1, 29, 2, 11, 6, 10, 13, 1, 8, 14, 1, 16, 49, 77, 3, 10, 17, 9, 12, 116,
   12, 56, 8, 10, 3, 49, 82, 3, 1, 39, 5, 44, 3, 1, 11, 1, 18, 1, 28, 13, 1, 34, 37, 64, 1, 1, 1,
   1, 1, 1, 1, 1, 1, 1, 1, 1, 1, 1, 1, 1, 1, 1, 1, 1, 1, 1, 1, 1, 1, 1, 1, 1, 1, 1, 1, 1, 1, 1, 1,
   1, 1, 1, 1, 1, 1, 1, 1, 1, 1, 1, 1, 1, 1, 1, 1, 1, 1, 1, 1, 1, 1, 1, 1, 1, 1, 1, 1, 1, 1, 1, 1,
   1, 1, 1, 1, 1, 1, 1, 1, 1, 1, 1, 1, 1, 1, 1, 1, 1, 1, 1, 1, 1, 1, 1, 1, 1, 1, 1, 1, 1, 1, 1, 1,
   1, 1, 1, 1, 1, 1, 1, 1, 1, 1, 1, 1, 1, 1, 1, 1, 1, 1, 1, 1, 1, 1, 1, 1, 1, 1, 1, 1, 1, 1, 1, 1,
   1, 1, 1, 1, 1, 1, 1, 1, 1, 1, 1, 1, 1, 1, 1, 1, 1, 1, 5, 2, 2, 1, 1, 1, 1, 1, 1, 1, 1, 1, 1, 1,
   1, 1, 1, 1, 1, 1, 1, 1, 1, 1, 1, 1, 1, 1, 1, 1, 1, 1, 1, 1, 1, 1, 1, 1, 1, 1, 1, 1, 1, 1, 1, 1,
   1, 1, 1, 1, 1, 1, 1, 1, 1, 1, 1, 1, 1, 1, 1, 1, 1, 1, 1, 1, 1, 1, 1, 1, 1, 1, 1, 1, 1, 1, 1, 1,
   1, 1, 1, 1, 1, 1, 1, 1, 1, 1, 1, 1, 1, 1, 1, 1, 1, 1, 1, 1, 1, 1, 9, 8, 6, 10, 8, 8, 8, 8, 6,
   10, 8, 8, 8, 8, 1, 1, 1, 1, 1, 1, 1, 1, 1, 1, 1, 1, 1, 51, 2, 4, 1, 15, 1, 9, 3, 3, 2, 8, 3, 1,
   4, 14, 1, 343, 1, 53, 1, 2731, 48, 1, 1, 3, 2, 1, 1, 1, 1, 1, 1, 4, 1, 1, 2, 1, 6, 5, 1, 1, 1,
   1, 1, 1, 1, 1, 1, 1, 1, 1, 1, 1, 1, 1, 1, 1, 1, 1, 1, 1, 1, 1, 1, 1, 1, 1, 1, 1, 1, 1, 1, 1, 1,
   1, 1, 1, 1, 1, 1, 1, 1, 1, 1, 1, 1, 1, 1, 1, 1, 1, 1, 1, 1, 1, 1, 1, 1, 1, 1, 1, 1, 1, 1, 1, 1,
   1, 1, 1, 1, 1, 1, 1, 1, 1, 1, 1, 1, 1, 1, 1, 1, 1, 1, 1, 1, 1, 1, 1, 1, 1, 1, 1, 1, 1, 1, 1, 2,
   7, 1, 1, 4, 1, 1, 12, 38, 1, 1, 5, 1, 2, 56, 23, 24, 9, 7, 1, 7, 1, 7, 1, 7, 1, 7, 1, 7, 1, 7,
   1, 7, 1, 32, 47, 1, 469, 3, 34, 4, 14, 1, 4, 86, 2, 2, 2, 2, 2, 90, 1, 3, 6, 43, 112, 32, 48,
   16, 512, 6592, 64, 22157, 67, 46, 2, 269, 3, 28, 21, 1, 1, 1, 1, 1, 1, 1, 1, 1, 1, 1, 1, 1, 1,
   1, 1, 1, 1, 1, 1, 1, 1, 1, 1, 1, 1, 1, 1, 1, 1, 1, 1, 1, 1, 1, 1, 1, 1, 1, 1, 1, 1, 1, 1, 3, 4,
   10, 1, 1, 1, 1, 1, 1, 1, 1, 1, 1, 1, 1, 1, 1, 1, 1, 1, 1, 1, 1, 1, 1, 1, 1, 1, 1, 1, 1, 1, 1, 2,
   72, 10, 2, 37, 9, 3, 1, 1, 1, 1, 1, 1, 1, 1, 1, 1, 1, 1, 3, 1, 1, 1, 1, 1, 1, 1, 1, 1, 1, 1, 1,
   1, 1, 1, 1, 1, 1, 1, 1, 1, 1, 1, 1, 1, 1, 1, 1, 1, 1, 1, 1, 1, 1, 1, 1, 1, 1, 1, 1, 1, 1, 1, 1,
   1, 1, 1, 1, 1, 1, 1, 1, 1, 1, 1, 1, 1, 1, 1, 1, 1, 1, 1, 8, 1, 1, 1, 1, 2, 1, 1, 1, 1, 1, 1, 1,
   1, 2, 3, 1, 1, 2, 1, 1, 1, 3, 1, 1, 1, 1, 1, 1, 1, 1, 1, 1, 1, 1, 1, 1, 1, 1, 1, 1, 1, 1, 5, 1,
   5, 1, 1, 1, 1, 1, 1, 1, 1, 1, 1, 1, 1, 1, 1, 1, 4, 1, 1, 1, 6, 1, 1, 1, 1, 1, 1, 1, 1, 1, 28, 2,
   2, 46, 4, 1, 19, 52, 12, 70, 10, 10, 6, 24, 3, 1, 1, 49, 2, 36, 44, 65, 14, 11, 6, 31, 1, 55, 9,
   14, 2, 10, 6, 23, 3, 73, 24, 3, 2, 16, 2, 5, 10, 6, 2, 6, 2, 6, 9, 7, 1, 7, 1, 43, 5, 9, 87, 43,
   1, 2, 2, 10, 6, 11172, 8810, 2, 1, 1, 1, 2, 10, 1, 1, 1, 1, 2, 2, 3, 244, 1, 769, 16, 67, 1,
   396, 12, 1, 26, 1, 19, 1, 2, 1, 15, 2, 14, 34, 123, 258, 1, 130, 29, 3, 49, 15, 1, 31, 32, 13,
   20, 1, 8, 6, 43, 5, 30, 2, 36, 4, 8, 88, 118, 2, 10, 46, 36, 4, 40, 8, 52, 51, 11, 1, 15, 1, 7,
   1, 2, 67, 311, 9, 22, 10, 8, 24, 1, 127, 6, 2, 1, 1, 44, 1, 2, 3, 1, 2, 23, 10, 23, 9, 31, 65,
   19, 1, 2, 10, 22, 10, 26, 70, 56, 6, 2, 64, 4, 1, 2, 5, 8, 1, 3, 1, 29, 2, 3, 4, 1, 32, 29, 3,
   29, 35, 8, 1, 30, 25, 54, 10, 22, 10, 19, 13, 18, 110, 73, 119, 51, 13, 40, 8, 10, 326, 42, 1,
   2, 3, 2, 78, 29, 10, 1, 8, 33, 31, 22, 42, 21, 27, 23, 9, 71, 31, 16, 9, 60, 7, 1, 13, 25, 7,
   10, 6, 53, 1, 10, 4, 4, 8, 36, 2, 1, 9, 69, 4, 4, 1, 13, 1, 1, 35, 18, 1, 37, 6, 1, 65, 7, 1, 1,
   1, 4, 1, 15, 1, 10, 7, 59, 5, 10, 6, 4, 1, 8, 2, 2, 2, 22, 1, 7, 1, 2, 1, 5, 1, 10, 2, 2, 2, 3,
   2, 1, 6, 1, 5, 7, 2, 7, 3, 5, 139, 75, 5, 10, 4, 4, 30, 70, 1, 1, 8, 10, 166, 54, 2, 9, 23, 6,
   34, 65, 3, 1, 11, 10, 38, 57, 7, 10, 54, 27, 2, 15, 4, 10, 6, 7, 185, 59, 133, 42, 21, 8, 2, 1,
   2, 8, 1, 2, 1, 30, 1, 2, 2, 9, 12, 10, 70, 8, 2, 46, 2, 8, 1, 2, 27, 63, 8, 1, 8, 74, 3, 1, 18,
   73, 263, 9, 1, 45, 1, 9, 15, 10, 24, 30, 2, 22, 1, 14, 73, 7, 1, 2, 1, 44, 3, 1, 1, 2, 1, 9, 8,
   10, 6, 6, 1, 2, 1, 37, 1, 2, 1, 6, 7, 10, 310, 23, 185, 1, 79, 922, 230, 196, 2636, 97, 15,
   1071, 4049, 583, 8633, 569, 7, 31, 1, 10, 6, 79, 1, 10, 6, 30, 2, 5, 11, 55, 9, 4, 12, 10, 9,
   21, 5, 19, 720, 32, 128, 75, 4, 57, 7, 17, 64, 2, 1, 2, 11, 2, 14, 6136, 8, 1238, 42, 9, 8935,
   4, 1, 7, 1, 2, 1, 291, 45, 3, 17, 4, 8, 396, 2308, 107, 5, 13, 3, 9, 7, 10, 3, 2, 4705, 46, 2,
   23, 2745, 55, 4, 50, 8, 1, 14, 1, 22, 5, 1, 15, 1104, 31, 225, 7, 1, 17, 2, 7, 1, 2, 1, 5, 213,
   45, 3, 14, 2, 10, 4, 1, 321, 31, 17, 58, 1254, 7, 1, 4, 1, 2, 1, 15, 1, 197, 11, 7, 75, 42, 4,
   10, 5798, 42720, 32, 4153, 7, 222, 2, 5762, 14, 7473, 5151, 4939]

/-- Characters that join with the next one, as run lengths from code point 0. -/
def joinsNextRuns : List Nat :=
  [1568, 1, 5, 1, 1, 1, 1, 5, 4, 13, 1, 7, 1, 2, 35, 2, 8, 16, 18, 38, 1, 2, 9, 1, 1, 1, 1, 2, 40,
   3, 2, 1, 18, 3, 5, 4, 1, 9, 1, 1, 1, 1, 1, 2, 31, 11, 3, 15, 2, 4, 1, 1, 2, 3, 2, 6, 74, 33, 86,
   5, 2, 1, 1, 10, 1, 1, 10, 1, 1, 4, 2, 1, 29, 1, 2, 5, 18, 10, 5, 2, 2, 6, 1, 15, 3902, 1, 24,
   89, 14, 34, 1, 1, 36757, 51, 25165, 5, 8, 1, 5, 10, 1, 3, 10, 4, 145, 1, 1, 1, 3, 3, 1, 2, 1, 1,
   2, 1, 28, 2, 337, 34, 1, 1, 524, 3, 1, 17, 12, 3, 28, 4, 2, 12, 46, 1, 1, 2, 4, 1, 2, 2, 1, 2,
   1, 1, 2, 1, 5, 2, 55604, 68]

/-- Characters that join with the one before, as run lengths from code point 0. -/
def joinsPreviousRuns : List Nat :=
  [1568, 1, 1, 30, 1, 10, 35, 2, 1, 3, 1, 95, 1, 1, 24, 2, 10, 3, 2, 1, 16, 1, 1, 30, 29, 51, 74,
   33, 85, 25, 7, 1, 1, 4, 1, 4, 5, 19, 3, 1, 2, 6, 17, 13, 1, 27, 3902, 1, 24, 89, 14, 34, 1, 1,
   36757, 50, 25166, 6, 1, 1, 1, 2, 3, 9, 1, 10, 2, 1, 6, 5, 144, 18, 23, 6, 338, 35, 524, 21, 12,
   4, 27, 18, 46, 1, 1, 5, 1, 8, 1, 4, 4, 2, 55605, 68]

/-- Marks that take the vowel from the letter before, as run lengths from code point 0. -/
def viramaRuns : List Nat :=
  [2381, 1, 127, 1, 127, 1, 127, 1, 127, 1, 127, 1, 127, 1, 127, 1, 109, 2, 16, 1, 124, 1, 111, 1,
   127, 1, 201, 1, 180, 2, 1753, 2, 30, 1, 157, 1, 653, 1, 227, 1, 101, 2, 70, 2, 4491, 1, 31366,
   1, 37, 1, 151, 1, 142, 1, 108, 1, 309, 1, 246, 1, 24145, 1, 1542, 1, 41, 1, 14, 1, 57, 1, 121,
   2, 139, 1, 116, 1, 180, 1, 98, 1, 244, 1, 127, 1, 252, 1, 127, 1, 118, 1, 116, 1, 269, 1, 259,
   2, 161, 1, 83, 1, 18, 1, 81, 1, 421, 1, 260, 2, 81, 1]

/-- Can this stand anywhere in a label? -/
def isLabelChar (c : Char) : Bool := Runs.contains labelRuns c

/-- Does this join with the next character, in a script whose letters are joined? -/
def joinsNext (c : Char) : Bool := Runs.contains joinsNextRuns c

/-- Does this join with the character before? -/
def joinsPrevious (c : Char) : Bool := Runs.contains joinsPreviousRuns c

/-- Does this take the vowel from the letter before? -/
def isVirama (c : Char) : Bool := Runs.contains viramaRuns c

example : isLabelChar 'é' = true ∧ isLabelChar 'É' = false ∧ isLabelChar '_' = false := by
  decide +kernel

end AssistantUI.Text
