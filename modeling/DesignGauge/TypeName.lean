import DesignGauge.Text.Case
import DesignGauge.Text.Pieces
import DesignGauge.Text.Word

/-!
# Type names

Declared types are texts. Two lists of names are set apart: primitives and their wrappers, and
the types of the standard library. A type expression mentions the last segment of every dotted
name in it.
-/

namespace DesignGauge.TypeName

open Text

/-- Primitives and their wrappers. -/
def primitives : List String := [
  "int", "float", "double", "boolean", "char", "byte", "short", "long", "void", "string",
  "String", "Integer", "Float", "Double", "Boolean", "Character", "Byte", "Short", "Long", "Void"]

/-- The primitives that have arrays of their own. -/
def arrayable : List String :=
  ["int", "float", "double", "boolean", "char", "byte", "short", "long"]

/-- The wrappers that have arrays of their own. -/
def wrappers : List String :=
  ["String", "Integer", "Float", "Double", "Boolean", "Character", "Byte", "Short", "Long"]

/-- Classes of the standard library. -/
def libraryClasses : List String := [
  "Object", "Class", "Exception", "RuntimeException", "Throwable", "Error", "Thread", "Runnable",
  "System", "Math", "Runtime", "Process", "ProcessBuilder", "SecurityManager",
  "Collection", "List", "ArrayList", "LinkedList", "Vector", "Stack", "Set", "HashSet", "TreeSet",
  "LinkedHashSet", "Map", "HashMap", "TreeMap", "LinkedHashMap", "Hashtable", "Properties",
  "Queue", "Deque", "PriorityQueue", "ArrayDeque", "Iterator", "Enumeration", "Comparator",
  "Comparable",
  "File", "InputStream", "OutputStream", "Reader", "Writer", "BufferedReader", "BufferedWriter",
  "FileInputStream", "FileOutputStream", "FileReader", "FileWriter",
  "Date", "Calendar", "GregorianCalendar", "TimeZone", "Locale", "Random", "Scanner",
  "StringTokenizer", "UUID", "Timer", "TimerTask", "BigInteger", "BigDecimal", "Optional",
  "Stream", "Arrays", "Collections",
  "Callable", "Future", "ExecutorService", "Executor", "Lock", "ReentrantLock", "Condition",
  "Semaphore", "CountDownLatch", "CyclicBarrier", "AtomicInteger", "AtomicLong", "AtomicBoolean",
  "AtomicReference",
  "Method", "Field", "Constructor", "Modifier", "Proxy", "InvocationHandler",
  "Buffer", "ByteBuffer", "CharBuffer", "Path", "Paths", "Files", "Channel", "Selector"]

/-- The library types in lower case, arrays of primitives and wrappers included. -/
def libraryTypes : List String :=
  (arrayable ++ ["void"] ++ arrayable.map (· ++ "[]") ++ arrayable.map (· ++ "[][]")
    ++ wrappers ++ ["Void", "Number"] ++ wrappers.map (· ++ "[]") ++ libraryClasses).map lower

/-- The text in front of type arguments, without blanks around it. -/
def base (type : String) : String :=
  String.ofList (strip (cut '<' type.toList).1)

/-- The type is a primitive or a wrapper, type arguments aside. -/
def isPrimitive (type : String) : Bool := primitives.contains (base type)

/-- The type is named, no primitive and not the class itself. -/
def isForeign (type : String) (current : Option String) : Bool :=
  let name := base type
  !name.isEmpty && !isPrimitive name && current != some name

/-- The type is one of the library, in any letter case. -/
def isLibrary (type : String) : Bool :=
  libraryTypes.contains (lower (String.ofList (strip type.toList)))

/-- Container and element of a type with arguments: a word and, between angle brackets up to the
end, some text on one line. -/
def splitGeneric (type : String) : Option (String × String) :=
  let text := strip type.toList
  let container := text.takeWhile isWord
  match text.dropWhile isWord with
  | '<' :: rest =>
    let element := rest.dropLast
    if container.isEmpty || element.isEmpty || rest.getLast? != some '>' || element.contains '\n'
    then none
    else some (String.ofList container, String.ofList element)
  | _ => none

/-! ## Names in a type expression -/

/-- A character that can start a dotted name. -/
def startsName (c : Char) : Bool := isAsciiLetter c || c == '_' || c == '$'

/-- A character that can continue a dotted name. -/
def continuesName (c : Char) : Bool := isWord c || c == '$' || c == '.'

/-- The dotted names of a text, from left to right. -/
def dottedNames (text : List Char) : List (List Char) :=
  match text with
  | [] => []
  | c :: rest =>
    if startsName c then
      (c :: rest.takeWhile continuesName) :: dottedNames (rest.dropWhile continuesName)
    else dottedNames rest
termination_by text.length
decreasing_by
  · exact Nat.lt_succ_of_le (List.dropWhile_suffix _).length_le
  · simp

/-- Words of a type expression that name no type. -/
def ignoredWords : List String :=
  ["extends", "super", "final", "var", "No_Type", "Unknown", "None", "undefined"]

/-- The types that an expression mentions, each by the last segment of its name. -/
def mentioned (type : String) : List String :=
  ((dottedNames type.toList).map fun name => String.ofList (afterLast '.' name)).filter
    fun name => !name.isEmpty && !ignoredWords.contains name

/-- The type of a parameter: its words without annotations and without the name at the end. -/
def ofParameter (parameter : String) : String :=
  let parts := (words parameter.toList).filter fun w => w.head? != some '@' && w != [',']
  String.intercalate " " ((if parts.length ≥ 2 then parts.dropLast else parts).map String.ofList)

end DesignGauge.TypeName
