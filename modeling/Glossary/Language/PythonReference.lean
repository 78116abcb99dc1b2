/-!
# The Python reference

The reference that comes with the program for Python source, line by line, in the format that
`Glossary.Reference` reads.
-/

namespace Glossary.Language

/-- The lines of the Python reference. -/
def pythonReferenceLines : List String := [
  "# Python Language Reference",
  "",
  "Reference entries shown on hover and in the generated documentation. Each",
  "entry is a `###` heading holding the exact token, a description paragraph",
  "and an optional fenced example.",
  "",
  "## Python Builtins",
  "",
  "### Constants",
  "",
  "### `True`",
  "**Description**: The true value of the bool type.",
  "",
  "### `False`",
  "**Description**: The false value of the bool type.",
  "",
  "### `None`",
  "**Description**: The sole value of NoneType, used to signal the absence of a value.",
  "",
  "### `NotImplemented`",
  "**Description**: Special value returned by binary special methods to indicate the operation is not implemented for the other type.",
  "**Example**:",
  "```python",
  "def __eq__(self, other):",
  "    if not isinstance(other, Point):",
  "        return NotImplemented",
  "    return self.x == other.x",
  "```",
  "",
  "### `Ellipsis`",
  "**Description**: The ellipsis singleton, the same object as the literal `...`.",
  "**Example**:",
  "```python",
  "array[..., 0] is array[Ellipsis, 0]",
  "```",
  "",
  "### `__debug__`",
  "**Description**: True unless Python was started with the -O option. Assert statements are compiled away when it is false.",
  "",
  "### Functions",
  "",
  "### `abs`",
  "**Description**: Return the absolute value of a number.",
  "**Example**:",
  "```python",
  "abs(-7.5)  # 7.5",
  "```",
  "",
  "### `aiter`",
  "**Description**: Return an asynchronous iterator for an asynchronous iterable.",
  "",
  "### `all`",
  "**Description**: Return True if every element of the iterable is true, or the iterable is empty.",
  "**Example**:",
  "```python",
  "all(x > 0 for x in [1, 2, 3])  # True",
  "```",
  "",
  "### `anext`",
  "**Description**: Await and return the next item from an asynchronous iterator.",
  "",
  "### `any`",
  "**Description**: Return True if any element of the iterable is true. Empty iterables give False.",
  "**Example**:",
  "```python",
  "any(name.startswith(\"_\") for name in names)",
  "```",
  "",
  "### `ascii`",
  "**Description**: Return a printable representation of an object, escaping non-ASCII characters.",
  "",
  "### `bin`",
  "**Description**: Convert an integer to a binary string prefixed with \"0b\".",
  "**Example**:",
  "```python",
  "bin(10)  # '0b1010'",
  "```",
  "",
  "### `breakpoint`",
  "**Description**: Drop into the debugger at the call site.",
  "",
  "### `callable`",
  "**Description**: Return True if the object appears callable.",
  "",
  "### `chr`",
  "**Description**: Return the string of one character whose Unicode code point is the given integer.",
  "**Example**:",
  "```python",
  "chr(97)  # 'a'",
  "```",
  "",
  "### `compile`",
  "**Description**: Compile source into a code object that can be run by exec or eval.",
  "",
  "### `delattr`",
  "**Description**: Delete the named attribute from an object.",
  "",
  "### `dir`",
  "**Description**: Without arguments, list names in the current scope. With an object, list its attributes.",
  "",
  "### `divmod`",
  "**Description**: Return the pair (quotient, remainder) of integer division.",
  "**Example**:",
  "```python",
  "divmod(17, 5)  # (3, 2)",
  "```",
  "",
  "### `enumerate`",
  "**Description**: Return an iterator of (index, value) pairs over an iterable.",
  "**Example**:",
  "```python",
  "for i, line in enumerate(lines, start=1):",
  "    print(i, line)",
  "```",
  "",
  "### `eval`",
  "**Description**: Evaluate a string containing a single Python expression and return its value.",
  "",
  "### `exec`",
  "**Description**: Execute dynamically created Python code.",
  "",
  "### `filter`",
  "**Description**: Build an iterator from the elements of an iterable for which a function returns true.",
  "**Example**:",
  "```python",
  "list(filter(str.isdigit, [\"1\", \"a\", \"2\"]))  # ['1', '2']",
  "```",
  "",
  "### `format`",
  "**Description**: Format a value according to a format specification.",
  "**Example**:",
  "```python",
  "format(3.14159, \".2f\")  # '3.14'",
  "```",
  "",
  "### `getattr`",
  "**Description**: Return the value of the named attribute of an object, with an optional default.",
  "**Example**:",
  "```python",
  "getattr(config, \"timeout\", 30)",
  "```",
  "",
  "### `globals`",
  "**Description**: Return the dictionary implementing the current module namespace.",
  "",
  "### `hasattr`",
  "**Description**: Return True if the object has an attribute with the given name.",
  "",
  "### `hash`",
  "**Description**: Return the hash value of an object.",
  "",
  "### `help`",
  "**Description**: Invoke the built-in help system.",
  "",
  "### `hex`",
  "**Description**: Convert an integer to a lowercase hexadecimal string prefixed with \"0x\".",
  "**Example**:",
  "```python",
  "hex(255)  # '0xff'",
  "```",
  "",
  "### `id`",
  "**Description**: Return the identity of an object, unique among simultaneously existing objects.",
  "",
  "### `input`",
  "**Description**: Read a line from standard input, without the trailing newline.",
  "**Example**:",
  "```python",
  "name = input(\"Name: \")",
  "```",
  "",
  "### `isinstance`",
  "**Description**: Return True if the object is an instance of the class or of a subclass of it.",
  "**Example**:",
  "```python",
  "isinstance(3, (int, float))  # True",
  "```",
  "",
  "### `issubclass`",
  "**Description**: Return True if a class is a subclass of another class.",
  "",
  "### `iter`",
  "**Description**: Return an iterator object for an iterable, or a callable-and-sentinel pair.",
  "",
  "### `len`",
  "**Description**: Return the number of items in a container.",
  "**Example**:",
  "```python",
  "len([1, 2, 3])  # 3",
  "```",
  "",
  "### `locals`",
  "**Description**: Return a mapping of the current local symbol table.",
  "",
  "### `map`",
  "**Description**: Return an iterator that applies a function to every item of one or more iterables.",
  "**Example**:",
  "```python",
  "list(map(int, [\"1\", \"2\"]))  # [1, 2]",
  "```",
  "",
  "### `max`",
  "**Description**: Return the largest item of an iterable or of two or more arguments.",
  "",
  "### `min`",
  "**Description**: Return the smallest item of an iterable or of two or more arguments.",
  "",
  "### `next`",
  "**Description**: Retrieve the next item from an iterator, or the default when exhausted.",
  "**Example**:",
  "```python",
  "first = next(iter(items), None)",
  "```",
  "",
  "### `oct`",
  "**Description**: Convert an integer to an octal string prefixed with \"0o\".",
  "",
  "### `open`",
  "**Description**: Open a file and return a corresponding file object.",
  "**Example**:",
  "```python",
  "with open(\"data.txt\", encoding=\"utf-8\") as f:",
  "    text = f.read()",
  "```",
  "",
  "### `ord`",
  "**Description**: Return the Unicode code point of a one-character string.",
  "**Example**:",
  "```python",
  "ord(\"a\")  # 97",
  "```",
  "",
  "### `pow`",
  "**Description**: Return base to the power exp, optionally modulo mod.",
  "",
  "### `print`",
  "**Description**: Print objects to the text stream, separated by sep and followed by end.",
  "**Example**:",
  "```python",
  "print(\"Hello, world!\")",
  "print(a, b, sep=\", \", end=\"\\n\")",
  "```",
  "",
  "### `repr`",
  "**Description**: Return a string containing a printable representation of an object.",
  "",
  "### `reversed`",
  "**Description**: Return a reverse iterator over a sequence.",
  "",
  "### `round`",
  "**Description**: Round a number to a given precision in decimal digits.",
  "**Example**:",
  "```python",
  "round(2.675, 2)",
  "```",
  "",
  "### `setattr`",
  "**Description**: Assign a value to the named attribute of an object.",
  "",
  "### `sorted`",
  "**Description**: Return a new sorted list from the items of an iterable.",
  "**Example**:",
  "```python",
  "sorted(words, key=str.lower, reverse=True)",
  "```",
  "",
  "### `sum`",
  "**Description**: Sum the items of an iterable from left to right, starting from start.",
  "**Example**:",
  "```python",
  "sum([1, 2, 3], start=10)  # 16",
  "```",
  "",
  "### `vars`",
  "**Description**: Return the __dict__ attribute of an object.",
  "",
  "### `zip`",
  "**Description**: Iterate over several iterables in parallel, producing tuples.",
  "**Example**:",
  "```python",
  "for name, score in zip(names, scores):",
  "    print(name, score)",
  "```",
  "",
  "### `__import__`",
  "**Description**: Function invoked by the import statement. Direct use is rarely needed.",
  "",
  "### Types",
  "",
  "### `bool`",
  "**Description**: Boolean type with the two values True and False.",
  "",
  "### `bytearray`",
  "**Description**: Mutable sequence of bytes.",
  "",
  "### `bytes`",
  "**Description**: Immutable sequence of bytes.",
  "**Example**:",
  "```python",
  "b = bytes(\"text\", \"utf-8\")",
  "```",
  "",
  "### `classmethod`",
  "**Description**: Transform a method into a class method that receives the class as its first argument.",
  "**Example**:",
  "```python",
  "class Point:",
  "    @classmethod",
  "    def origin(cls):",
  "        return cls(0, 0)",
  "```",
  "",
  "### `complex`",
  "**Description**: Complex number type.",
  "",
  "### `dict`",
  "**Description**: Mutable mapping of keys to values.",
  "**Example**:",
  "```python",
  "ages = dict(alice=30, bob=25)",
  "```",
  "",
  "### `float`",
  "**Description**: Double precision floating point number type.",
  "",
  "### `frozenset`",
  "**Description**: Immutable, hashable set.",
  "",
  "### `int`",
  "**Description**: Arbitrary precision integer type.",
  "**Example**:",
  "```python",
  "int(\"ff\", 16)  # 255",
  "```",
  "",
  "### `list`",
  "**Description**: Mutable sequence type.",
  "**Example**:",
  "```python",
  "items = list(range(3))  # [0, 1, 2]",
  "```",
  "",
  "### `memoryview`",
  "**Description**: View over the memory of a bytes-like object without copying.",
  "",
  "### `object`",
  "**Description**: The base class of all classes.",
  "",
  "### `property`",
  "**Description**: Build a managed attribute from getter, setter and deleter functions.",
  "**Example**:",
  "```python",
  "class Circle:",
  "    @property",
  "    def area(self):",
  "        return 3.14159 * self.r ** 2",
  "```",
  "",
  "### `range`",
  "**Description**: Immutable sequence of integers, commonly used in for loops.",
  "**Example**:",
  "```python",
  "for i in range(0, 10, 2):",
  "    print(i)",
  "```",
  "",
  "### `set`",
  "**Description**: Mutable unordered collection of unique hashable elements.",
  "",
  "### `slice`",
  "**Description**: Object representing a set of indices given by range(start, stop, step).",
  "",
  "### `staticmethod`",
  "**Description**: Transform a method into a static method that receives no implicit first argument.",
  "",
  "### `str`",
  "**Description**: Immutable sequence of Unicode code points.",
  "**Example**:",
  "```python",
  "str(42)  # '42'",
  "```",
  "",
  "### `super`",
  "**Description**: Return a proxy that delegates method calls to a parent or sibling class.",
  "**Example**:",
  "```python",
  "class Child(Base):",
  "    def __init__(self):",
  "        super().__init__()",
  "```",
  "",
  "### `tuple`",
  "**Description**: Immutable sequence type.",
  "",
  "### `type`",
  "**Description**: With one argument, return the type of an object. With three, create a new type.",
  "",
  "### Exceptions",
  "",
  "### `BaseException`",
  "**Description**: The base class for all built-in exceptions.",
  "",
  "### `Exception`",
  "**Description**: Base class for all non-system-exiting exceptions. User exceptions should derive from it.",
  "**Example**:",
  "```python",
  "class ConfigError(Exception):",
  "    pass",
  "```",
  "",
  "### `ArithmeticError`",
  "**Description**: Base class for arithmetic errors such as OverflowError and ZeroDivisionError.",
  "",
  "### `AssertionError`",
  "**Description**: Raised when an assert statement fails.",
  "",
  "### `AttributeError`",
  "**Description**: Raised when an attribute reference or assignment fails.",
  "",
  "### `EOFError`",
  "**Description**: Raised when input hits end-of-file without reading any data.",
  "",
  "### `FileNotFoundError`",
  "**Description**: Raised when a file or directory is requested but does not exist.",
  "",
  "### `ImportError`",
  "**Description**: Raised when an import statement cannot load a module or name.",
  "",
  "### `IndentationError`",
  "**Description**: Syntax error caused by incorrect indentation.",
  "",
  "### `IndexError`",
  "**Description**: Raised when a sequence subscript is out of range.",
  "",
  "### `KeyError`",
  "**Description**: Raised when a mapping key is not found.",
  "**Example**:",
  "```python",
  "try:",
  "    value = table[key]",
  "except KeyError:",
  "    value = None",
  "```",
  "",
  "### `KeyboardInterrupt`",
  "**Description**: Raised when the user hits the interrupt key, normally Control-C.",
  "",
  "### `LookupError`",
  "**Description**: Base class for IndexError and KeyError.",
  "",
  "### `MemoryError`",
  "**Description**: Raised when an operation runs out of memory.",
  "",
  "### `ModuleNotFoundError`",
  "**Description**: Subclass of ImportError raised when a module cannot be located.",
  "",
  "### `NameError`",
  "**Description**: Raised when a local or global name is not found.",
  "",
  "### `NotImplementedError`",
  "**Description**: Raised by abstract methods that subclasses must override.",
  "",
  "### `OSError`",
  "**Description**: Raised when a system function returns a system-related error.",
  "",
  "### `OverflowError`",
  "**Description**: Raised when the result of an arithmetic operation is too large to be represented.",
  "",
  "### `PermissionError`",
  "**Description**: Raised when an operation lacks the required access rights.",
  "",
  "### `RecursionError`",
  "**Description**: Raised when the maximum recursion depth is exceeded.",
  "",
  "### `RuntimeError`",
  "**Description**: Raised when an error does not fall into any other category.",
  "",
  "### `StopAsyncIteration`",
  "**Description**: Raised by __anext__ to signal the end of asynchronous iteration.",
  "",
  "### `StopIteration`",
  "**Description**: Raised by next() and __next__ to signal that an iterator is exhausted.",
  "",
  "### `SyntaxError`",
  "**Description**: Raised when the parser encounters a syntax error.",
  "",
  "### `SystemExit`",
  "**Description**: Raised by sys.exit() to request interpreter exit.",
  "",
  "### `TimeoutError`",
  "**Description**: Raised when a system function times out at the system level.",
  "",
  "### `TypeError`",
  "**Description**: Raised when an operation is applied to an object of an inappropriate type.",
  "",
  "### `UnboundLocalError`",
  "**Description**: Raised when a local variable is referenced before assignment.",
  "",
  "### `UnicodeError`",
  "**Description**: Raised when a Unicode encoding or decoding error occurs.",
  "",
  "### `ValueError`",
  "**Description**: Raised when an argument has the right type but an inappropriate value.",
  "**Example**:",
  "```python",
  "raise ValueError(f\"invalid port: \x7bport\x7d\")",
  "```",
  "",
  "### `ZeroDivisionError`",
  "**Description**: Raised when the second argument of a division or modulo operation is zero.",
  "",
  "### Warnings",
  "",
  "### `Warning`",
  "**Description**: Base class for warning categories.",
  "",
  "### `BytesWarning`",
  "**Description**: Warnings related to bytes and bytearray.",
  "",
  "### `DeprecationWarning`",
  "**Description**: Warnings about deprecated features, aimed at other Python developers.",
  "**Example**:",
  "```python",
  "warnings.warn(\"use load() instead\", DeprecationWarning, stacklevel=2)",
  "```",
  "",
  "### `EncodingWarning`",
  "**Description**: Warnings related to implicit text encodings.",
  "",
  "### `FutureWarning`",
  "**Description**: Warnings about deprecated features aimed at end users.",
  "",
  "### `ImportWarning`",
  "**Description**: Warnings about probable mistakes in module imports.",
  "",
  "### `PendingDeprecationWarning`",
  "**Description**: Warnings about features that will be deprecated in the future.",
  "",
  "### `ResourceWarning`",
  "**Description**: Warnings related to resource usage, such as unclosed files.",
  "",
  "### `RuntimeWarning`",
  "**Description**: Warnings about dubious runtime behavior.",
  "",
  "### `SyntaxWarning`",
  "**Description**: Warnings about dubious syntax.",
  "",
  "### `UnicodeWarning`",
  "**Description**: Warnings related to Unicode.",
  "",
  "### `UserWarning`",
  "**Description**: Default category for warnings issued by user code.",
  "",
  "## Python Keywords",
  "",
  "### `False`",
  "**Description**: Boolean false constant.",
  "**Example**:",
  "```python",
  "done = False",
  "```",
  "",
  "### `None`",
  "**Description**: The null object, used for missing values and as the default return value of functions.",
  "**Example**:",
  "```python",
  "result = None",
  "if result is None:",
  "    result = compute()",
  "```",
  "",
  "### `True`",
  "**Description**: Boolean true constant.",
  "**Example**:",
  "```python",
  "running = True",
  "```",
  "",
  "### `and`",
  "**Description**: Logical conjunction. Returns the first falsy operand, or the last operand.",
  "**Example**:",
  "```python",
  "if ready and not failed:",
  "    start()",
  "```",
  "",
  "### `as`",
  "**Description**: Bind an alias in import, with and except clauses.",
  "**Example**:",
  "```python",
  "import numpy as np",
  "```",
  "",
  "### `assert`",
  "**Description**: Raise AssertionError if the condition is false. Removed when optimizing.",
  "**Example**:",
  "```python",
  "assert len(items) > 0, \"items must not be empty\"",
  "```",
  "",
  "### `async`",
  "**Description**: Declare a coroutine function, or an asynchronous for or with statement.",
  "**Example**:",
  "```python",
  "async def fetch(url):",
  "    return await client.get(url)",
  "```",
  "",
  "### `await`",
  "**Description**: Suspend a coroutine until an awaitable completes.",
  "**Example**:",
  "```python",
  "data = await reader.read(100)",
  "```",
  "",
  "### `break`",
  "**Description**: Exit the innermost enclosing for or while loop.",
  "**Example**:",
  "```python",
  "for item in items:",
  "    if item is None:",
  "        break",
  "```",
  "",
  "### `case`",
  "**Description**: Soft keyword introducing a pattern inside a match statement.",
  "**Example**:",
  "```python",
  "match command:",
  "    case \"quit\":",
  "        exit()",
  "```",
  "",
  "### `class`",
  "**Description**: Define a class.",
  "**Example**:",
  "```python",
  "class Point:",
  "    def __init__(self, x, y):",
  "        self.x = x",
  "        self.y = y",
  "```",
  "",
  "### `continue`",
  "**Description**: Skip to the next iteration of the innermost loop.",
  "**Example**:",
  "```python",
  "for line in lines:",
  "    if not line:",
  "        continue",
  "    handle(line)",
  "```",
  "",
  "### `def`",
  "**Description**: Define a function or method.",
  "**Example**:",
  "```python",
  "def greet(name):",
  "    return f\"Hello, \x7bname\x7d\"",
  "```",
  "",
  "### `del`",
  "**Description**: Delete names, items or attributes.",
  "**Example**:",
  "```python",
  "del cache[key]",
  "```",
  "",
  "### `elif`",
  "**Description**: Else-if clause of an if statement.",
  "**Example**:",
  "```python",
  "if x < 0:",
  "    sign = -1",
  "elif x == 0:",
  "    sign = 0",
  "```",
  "",
  "### `else`",
  "**Description**: Alternative branch of if, for, while and try statements.",
  "**Example**:",
  "```python",
  "if ok:",
  "    commit()",
  "else:",
  "    rollback()",
  "```",
  "",
  "### `except`",
  "**Description**: Handle exceptions raised in a try block.",
  "**Example**:",
  "```python",
  "try:",
  "    value = int(text)",
  "except ValueError:",
  "    value = 0",
  "```",
  "",
  "### `finally`",
  "**Description**: Clause of a try statement that always runs.",
  "**Example**:",
  "```python",
  "try:",
  "    work()",
  "finally:",
  "    cleanup()",
  "```",
  "",
  "### `for`",
  "**Description**: Iterate over the items of an iterable.",
  "**Example**:",
  "```python",
  "for name in names:",
  "    print(name)",
  "```",
  "",
  "### `from`",
  "**Description**: Import specific names from a module, or chain an exception with raise.",
  "**Example**:",
  "```python",
  "from os import path",
  "```",
  "",
  "### `global`",
  "**Description**: Declare names that refer to module-level bindings.",
  "**Example**:",
  "```python",
  "def bump():",
  "    global counter",
  "    counter += 1",
  "```",
  "",
  "### `if`",
  "**Description**: Conditional execution.",
  "**Example**:",
  "```python",
  "if temperature > 30:",
  "    print(\"hot\")",
  "```",
  "",
  "### `import`",
  "**Description**: Load a module and bind it in the current namespace.",
  "**Example**:",
  "```python",
  "import json",
  "```",
  "",
  "### `in`",
  "**Description**: Membership test, and the iteration clause of a for statement.",
  "**Example**:",
  "```python",
  "if key in mapping:",
  "    print(mapping[key])",
  "```",
  "",
  "### `is`",
  "**Description**: Identity comparison between two objects.",
  "**Example**:",
  "```python",
  "if value is None:",
  "    return",
  "```",
  "",
  "### `lambda`",
  "**Description**: Create an anonymous single-expression function.",
  "**Example**:",
  "```python",
  "square = lambda x: x * x",
  "```",
  "",
  "### `match`",
  "**Description**: Soft keyword starting a structural pattern matching statement.",
  "**Example**:",
  "```python",
  "match point:",
  "    case (0, 0):",
  "        print(\"origin\")",
  "```",
  "",
  "### `nonlocal`",
  "**Description**: Declare names that refer to bindings in an enclosing function scope.",
  "**Example**:",
  "```python",
  "def counter():",
  "    count = 0",
  "    def inc():",
  "        nonlocal count",
  "        count += 1",
  "    return inc",
  "```",
  "",
  "### `not`",
  "**Description**: Logical negation.",
  "**Example**:",
  "```python",
  "if not items:",
  "    return",
  "```",
  "",
  "### `or`",
  "**Description**: Logical disjunction. Returns the first truthy operand, or the last operand.",
  "**Example**:",
  "```python",
  "name = given or \"anonymous\"",
  "```",
  "",
  "### `pass`",
  "**Description**: Null statement, a placeholder where a statement is required.",
  "**Example**:",
  "```python",
  "class Empty:",
  "    pass",
  "```",
  "",
  "### `raise`",
  "**Description**: Raise an exception.",
  "**Example**:",
  "```python",
  "raise RuntimeError(\"unreachable\")",
  "```",
  "",
  "### `return`",
  "**Description**: Leave the current function, optionally with a value.",
  "**Example**:",
  "```python",
  "def double(x):",
  "    return x * 2",
  "```",
  "",
  "### `try`",
  "**Description**: Start a block whose exceptions are handled by except clauses.",
  "**Example**:",
  "```python",
  "try:",
  "    connect()",
  "except OSError as err:",
  "    log(err)",
  "```",
  "",
  "### `while`",
  "**Description**: Repeat a block while a condition holds.",
  "**Example**:",
  "```python",
  "while queue:",
  "    process(queue.pop())",
  "```",
  "",
  "### `with`",
  "**Description**: Run a block inside a context manager.",
  "**Example**:",
  "```python",
  "with open(\"log.txt\", \"a\") as f:",
  "    f.write(\"done\\n\")",
  "```",
  "",
  "### `yield`",
  "**Description**: Produce a value from a generator function.",
  "**Example**:",
  "```python",
  "def countdown(n):",
  "    while n > 0:",
  "        yield n",
  "        n -= 1",
  "```",
  "",
  "## Operators & Delimiters",
  "",
  "### Operators",
  "",
  "### `+`",
  "**Description**: Addition, string and sequence concatenation, or unary plus. Also the first character of `+=`.",
  "**Example**:",
  "```python",
  "total = price + tax",
  "```",
  "",
  "### `-`",
  "**Description**: Subtraction or unary negation. Also the first character of `-=` and `->`.",
  "**Example**:",
  "```python",
  "delta = end - start",
  "```",
  "",
  "### `*`",
  "**Description**: Multiplication, sequence repetition, or argument unpacking. Two in a row (`**`) mean exponentiation or keyword unpacking.",
  "**Example**:",
  "```python",
  "area = width * height",
  "squared = x ** 2",
  "```",
  "",
  "### `/`",
  "**Description**: True division, always returning a float for numbers. Two in a row (`//`) mean floor division.",
  "**Example**:",
  "```python",
  "ratio = done / total",
  "```",
  "",
  "### `%`",
  "**Description**: Modulo, or printf-style string formatting.",
  "**Example**:",
  "```python",
  "is_even = n % 2 == 0",
  "```",
  "",
  "### `@`",
  "**Description**: Decorator marker, or matrix multiplication.",
  "**Example**:",
  "```python",
  "@staticmethod",
  "def build():",
  "    ...",
  "```",
  "",
  "### `&`",
  "**Description**: Bitwise AND, or set intersection.",
  "",
  "### `|`",
  "**Description**: Bitwise OR, set union, or dict merge.",
  "**Example**:",
  "```python",
  "merged = defaults | overrides",
  "```",
  "",
  "### `^`",
  "**Description**: Bitwise XOR, or set symmetric difference.",
  "",
  "### `~`",
  "**Description**: Bitwise inversion.",
  "",
  "### `<`",
  "**Description**: Less-than comparison. Also the first character of `<=` and `<<`.",
  "",
  "### `>`",
  "**Description**: Greater-than comparison. Also the first character of `>=` and `>>`.",
  "",
  "### `!`",
  "**Description**: First character of the not-equal operator `!=`, and the conversion marker in f-strings.",
  "",
  "### Delimiters",
  "",
  "### `(`",
  "**Description**: Opens a call argument list, a parameter list, a tuple or a parenthesized expression.",
  "**Example**:",
  "```python",
  "print(len(items))",
  "```",
  "",
  "### `)`",
  "**Description**: Closes a call, parameter list, tuple or parenthesized expression.",
  "",
  "### `[`",
  "**Description**: Opens a list display, a subscript or a slice.",
  "**Example**:",
  "```python",
  "first = items[0]",
  "```",
  "",
  "### `]`",
  "**Description**: Closes a list display, a subscript or a slice.",
  "",
  "### `\x7b`",
  "**Description**: Opens a dict or set display, or a replacement field in an f-string.",
  "**Example**:",
  "```python",
  "point = \x7b\"x\": 1, \"y\": 2\x7d",
  "```",
  "",
  "### `\x7d`",
  "**Description**: Closes a dict or set display, or an f-string replacement field.",
  "",
  "### `,`",
  "**Description**: Separates items in argument lists, displays and tuples.",
  "",
  "### `:`",
  "**Description**: Starts an indented block after a compound statement header. Also separates dict keys from values, slice bounds and annotations.",
  "**Example**:",
  "```python",
  "def f(x: int) -> int:",
  "    return x",
  "```",
  "",
  "### `.`",
  "**Description**: Attribute access, and the separator in dotted module names.",
  "**Example**:",
  "```python",
  "os.path.join(root, name)",
  "```",
  "",
  "### `;`",
  "**Description**: Separates simple statements on one line.",
  "",
  "### `=`",
  "**Description**: Assignment, and keyword argument binding. Doubled (`==`) it is the equality comparison.",
  "**Example**:",
  "```python",
  "count = 0",
  "```",
  "",
  "### `#`",
  "**Description**: Starts a comment running to the end of the line.",
  "",
  "### `\\`",
  "**Description**: Explicit line continuation at the end of a line, or an escape inside string literals."]

/-- The Python reference as one text. -/
def pythonReference : String := String.intercalate "\n" pythonReferenceLines ++ "\n"

end Glossary.Language
