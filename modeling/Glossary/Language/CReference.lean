/-!
# The C reference

The reference that comes with the program for C source, line by line, in the format that
`Glossary.Reference` reads.
-/

namespace Glossary.Language

/-- The lines of the C reference. -/
def cReferenceLines : List String := [
  "# C Language Reference",
  "",
  "Keywords follow C11. Builtins cover the common standard library names from",
  "stdio.h, stdlib.h, string.h, stddef.h, stdint.h and stdbool.h.",
  "",
  "## C Builtins",
  "",
  "### Constants",
  "",
  "### `NULL`",
  "**Description**: Null pointer constant (stddef.h).",
  "**Example**:",
  "```c",
  "char *name = NULL;",
  "```",
  "",
  "### `EOF`",
  "**Description**: Negative integer returned by stdio input functions at end-of-file or on error.",
  "**Example**:",
  "```c",
  "while ((ch = getchar()) != EOF) \x7b",
  "    putchar(ch);",
  "\x7d",
  "```",
  "",
  "### `EXIT_SUCCESS`",
  "**Description**: Portable successful termination status for exit (stdlib.h).",
  "",
  "### `EXIT_FAILURE`",
  "**Description**: Portable unsuccessful termination status for exit (stdlib.h).",
  "",
  "### `true`",
  "**Description**: Macro expanding to 1 (stdbool.h).",
  "",
  "### `false`",
  "**Description**: Macro expanding to 0 (stdbool.h).",
  "",
  "### `stdin`",
  "**Description**: Standard input stream.",
  "",
  "### `stdout`",
  "**Description**: Standard output stream.",
  "",
  "### `stderr`",
  "**Description**: Standard error stream, unbuffered by default.",
  "**Example**:",
  "```c",
  "fprintf(stderr, \"error: %s\\n\", message);",
  "```",
  "",
  "### Functions",
  "",
  "### `printf`",
  "**Description**: Write formatted output to stdout. Returns the number of characters written.",
  "**Example**:",
  "```c",
  "printf(\"%d items\\n\", count);",
  "```",
  "",
  "### `fprintf`",
  "**Description**: Write formatted output to a stream.",
  "",
  "### `sprintf`",
  "**Description**: Write formatted output to a character array. Prefer snprintf.",
  "",
  "### `snprintf`",
  "**Description**: Write at most n bytes of formatted output to a character array, always null-terminated when n is positive.",
  "**Example**:",
  "```c",
  "char buf[32];",
  "snprintf(buf, sizeof buf, \"%s-%d\", prefix, id);",
  "```",
  "",
  "### `scanf`",
  "**Description**: Read formatted input from stdin. Returns the number of items assigned.",
  "",
  "### `puts`",
  "**Description**: Write a string and a trailing newline to stdout.",
  "",
  "### `putchar`",
  "**Description**: Write one character to stdout.",
  "",
  "### `getchar`",
  "**Description**: Read one character from stdin, or EOF.",
  "",
  "### `fopen`",
  "**Description**: Open a file and return a FILE pointer, or NULL on failure.",
  "**Example**:",
  "```c",
  "FILE *fp = fopen(\"data.txt\", \"r\");",
  "if (fp == NULL) \x7b",
  "    perror(\"fopen\");",
  "\x7d",
  "```",
  "",
  "### `fclose`",
  "**Description**: Flush and close a stream.",
  "",
  "### `fgets`",
  "**Description**: Read at most n-1 characters of a line from a stream into a buffer.",
  "",
  "### `fputs`",
  "**Description**: Write a string to a stream without a trailing newline.",
  "",
  "### `fread`",
  "**Description**: Read an array of elements from a stream.",
  "",
  "### `fwrite`",
  "**Description**: Write an array of elements to a stream.",
  "",
  "### `perror`",
  "**Description**: Print a message describing the current errno value to stderr.",
  "",
  "### `malloc`",
  "**Description**: Allocate uninitialized memory. Returns NULL on failure.",
  "**Example**:",
  "```c",
  "int *values = malloc(n * sizeof *values);",
  "```",
  "",
  "### `calloc`",
  "**Description**: Allocate zero-initialized memory for an array.",
  "",
  "### `realloc`",
  "**Description**: Resize a previously allocated block, possibly moving it.",
  "",
  "### `free`",
  "**Description**: Release memory obtained from malloc, calloc or realloc.",
  "**Example**:",
  "```c",
  "free(values);",
  "values = NULL;",
  "```",
  "",
  "### `exit`",
  "**Description**: Terminate the program normally with a status code.",
  "",
  "### `abort`",
  "**Description**: Terminate the program abnormally without cleanup.",
  "",
  "### `atoi`",
  "**Description**: Convert a string to int without error reporting.",
  "",
  "### `strtol`",
  "**Description**: Convert a string to long with base selection and end pointer reporting.",
  "",
  "### `qsort`",
  "**Description**: Sort an array with a user comparison function.",
  "",
  "### `memcpy`",
  "**Description**: Copy n bytes between non-overlapping buffers.",
  "",
  "### `memmove`",
  "**Description**: Copy n bytes between buffers that may overlap.",
  "",
  "### `memset`",
  "**Description**: Fill n bytes of a buffer with a byte value.",
  "",
  "### `memcmp`",
  "**Description**: Compare the first n bytes of two buffers.",
  "",
  "### `strlen`",
  "**Description**: Return the length of a null-terminated string, excluding the terminator.",
  "**Example**:",
  "```c",
  "size_t n = strlen(name);",
  "```",
  "",
  "### `strcpy`",
  "**Description**: Copy a null-terminated string. The destination must be large enough.",
  "",
  "### `strncpy`",
  "**Description**: Copy at most n characters, padding with null bytes.",
  "",
  "### `strcat`",
  "**Description**: Append one null-terminated string to another.",
  "",
  "### `strcmp`",
  "**Description**: Compare two strings lexicographically.",
  "",
  "### `strncmp`",
  "**Description**: Compare at most n characters of two strings.",
  "",
  "### `strchr`",
  "**Description**: Find the first occurrence of a character in a string.",
  "",
  "### `strstr`",
  "**Description**: Find the first occurrence of a substring.",
  "",
  "### Types",
  "",
  "### `FILE`",
  "**Description**: Opaque type describing a stream.",
  "",
  "### `size_t`",
  "**Description**: Unsigned integer type of the result of sizeof.",
  "",
  "### `ptrdiff_t`",
  "**Description**: Signed integer type of the difference of two pointers.",
  "",
  "### `bool`",
  "**Description**: Boolean type macro expanding to _Bool (stdbool.h).",
  "",
  "### `int8_t`",
  "**Description**: Signed integer of exactly 8 bits (stdint.h).",
  "",
  "### `uint8_t`",
  "**Description**: Unsigned integer of exactly 8 bits (stdint.h).",
  "",
  "### `int32_t`",
  "**Description**: Signed integer of exactly 32 bits (stdint.h).",
  "",
  "### `uint32_t`",
  "**Description**: Unsigned integer of exactly 32 bits (stdint.h).",
  "",
  "### `int64_t`",
  "**Description**: Signed integer of exactly 64 bits (stdint.h).",
  "",
  "### `uint64_t`",
  "**Description**: Unsigned integer of exactly 64 bits (stdint.h).",
  "",
  "## C Keywords",
  "",
  "### `auto`",
  "**Description**: Automatic storage duration, the default for block-scope variables.",
  "",
  "### `break`",
  "**Description**: Exit the innermost loop or switch.",
  "",
  "### `case`",
  "**Description**: Label of a switch branch.",
  "**Example**:",
  "```c",
  "switch (op) \x7b",
  "case '+':",
  "    return a + b;",
  "\x7d",
  "```",
  "",
  "### `char`",
  "**Description**: Character type, the smallest addressable unit.",
  "",
  "### `const`",
  "**Description**: Qualifier marking an object as read-only.",
  "**Example**:",
  "```c",
  "const char *greeting = \"hello\";",
  "```",
  "",
  "### `continue`",
  "**Description**: Skip to the next iteration of the innermost loop.",
  "",
  "### `default`",
  "**Description**: Fallback label of a switch statement.",
  "",
  "### `do`",
  "**Description**: Start a loop whose condition is tested after each iteration.",
  "**Example**:",
  "```c",
  "do \x7b",
  "    n /= 10;",
  "    digits++;",
  "\x7d while (n != 0);",
  "```",
  "",
  "### `double`",
  "**Description**: Double precision floating type.",
  "",
  "### `else`",
  "**Description**: Alternative branch of an if statement.",
  "",
  "### `enum`",
  "**Description**: Declare an enumeration type.",
  "**Example**:",
  "```c",
  "enum color \x7b RED, GREEN, BLUE \x7d;",
  "```",
  "",
  "### `extern`",
  "**Description**: Declare an object or function with external linkage defined elsewhere.",
  "",
  "### `float`",
  "**Description**: Single precision floating type.",
  "",
  "### `for`",
  "**Description**: Loop with init, condition and increment clauses.",
  "**Example**:",
  "```c",
  "for (int i = 0; i < n; i++) \x7b",
  "    sum += values[i];",
  "\x7d",
  "```",
  "",
  "### `goto`",
  "**Description**: Jump to a label in the same function.",
  "",
  "### `if`",
  "**Description**: Conditional execution.",
  "",
  "### `inline`",
  "**Description**: Hint that calls to a function should be fast, affecting linkage rules.",
  "",
  "### `int`",
  "**Description**: Signed integer type of the natural size for the platform.",
  "",
  "### `long`",
  "**Description**: Long integer type modifier.",
  "",
  "### `register`",
  "**Description**: Hint that a variable is heavily used. Its address cannot be taken.",
  "",
  "### `restrict`",
  "**Description**: Pointer qualifier promising no other pointer aliases the object.",
  "",
  "### `return`",
  "**Description**: Leave the current function, optionally with a value.",
  "**Example**:",
  "```c",
  "int square(int x) \x7b",
  "    return x * x;",
  "\x7d",
  "```",
  "",
  "### `short`",
  "**Description**: Short integer type modifier.",
  "",
  "### `signed`",
  "**Description**: Signed integer type modifier.",
  "",
  "### `sizeof`",
  "**Description**: Operator yielding the size in bytes of a type or expression.",
  "**Example**:",
  "```c",
  "size_t n = sizeof(int) * count;",
  "```",
  "",
  "### `static`",
  "**Description**: Internal linkage at file scope, or static storage duration inside a block.",
  "",
  "### `struct`",
  "**Description**: Declare a structure type.",
  "**Example**:",
  "```c",
  "struct point \x7b",
  "    int x;",
  "    int y;",
  "\x7d;",
  "```",
  "",
  "### `switch`",
  "**Description**: Multi-way branch on an integer value.",
  "",
  "### `typedef`",
  "**Description**: Declare an alias for a type.",
  "**Example**:",
  "```c",
  "typedef unsigned long ulong;",
  "```",
  "",
  "### `union`",
  "**Description**: Declare a type whose members share storage.",
  "",
  "### `unsigned`",
  "**Description**: Unsigned integer type modifier.",
  "",
  "### `void`",
  "**Description**: Empty type, used for functions without a result and generic pointers.",
  "",
  "### `volatile`",
  "**Description**: Qualifier preventing the compiler from caching accesses to an object.",
  "",
  "### `while`",
  "**Description**: Repeat a statement while a condition is nonzero.",
  "**Example**:",
  "```c",
  "while (*p != '\\0') \x7b",
  "    p++;",
  "\x7d",
  "```",
  "",
  "### `_Alignas`",
  "**Description**: Specify the alignment of an object.",
  "",
  "### `_Alignof`",
  "**Description**: Operator yielding the alignment requirement of a type.",
  "",
  "### `_Atomic`",
  "**Description**: Qualifier or specifier for atomic types.",
  "",
  "### `_Bool`",
  "**Description**: Boolean type holding 0 or 1.",
  "",
  "### `_Generic`",
  "**Description**: Select an expression at compile time based on the type of a controlling expression.",
  "",
  "### `_Noreturn`",
  "**Description**: Function specifier for functions that never return.",
  "",
  "### `_Static_assert`",
  "**Description**: Compile-time assertion.",
  "**Example**:",
  "```c",
  "_Static_assert(sizeof(int) == 4, \"int must be 32 bits\");",
  "```",
  "",
  "### `_Thread_local`",
  "**Description**: Thread storage duration specifier.",
  "",
  "## Operators & Delimiters",
  "",
  "### Operators",
  "",
  "### `+`",
  "**Description**: Addition or unary plus. Doubled (`++`) it is increment.",
  "",
  "### `-`",
  "**Description**: Subtraction or unary negation. Also the first character of `--` and `->`.",
  "",
  "### `*`",
  "**Description**: Multiplication, pointer declaration, or dereference.",
  "**Example**:",
  "```c",
  "int *p = &x;",
  "*p = 2 * *p;",
  "```",
  "",
  "### `/`",
  "**Description**: Division, truncating toward zero for integers. Also the start of comments.",
  "",
  "### `%`",
  "**Description**: Remainder of integer division.",
  "",
  "### `&`",
  "**Description**: Bitwise AND, or address-of. Doubled (`&&`) it is logical AND.",
  "",
  "### `|`",
  "**Description**: Bitwise OR. Doubled (`||`) it is logical OR.",
  "",
  "### `^`",
  "**Description**: Bitwise XOR.",
  "",
  "### `~`",
  "**Description**: Bitwise complement.",
  "",
  "### `!`",
  "**Description**: Logical negation. Also the first character of `!=`.",
  "",
  "### `<`",
  "**Description**: Less-than comparison. Also the first character of `<=` and `<<`.",
  "",
  "### `>`",
  "**Description**: Greater-than comparison. Also the first character of `>=` and `>>`.",
  "",
  "### `=`",
  "**Description**: Assignment. Doubled (`==`) it is the equality comparison.",
  "",
  "### `?`",
  "**Description**: Conditional operator, paired with `:`.",
  "**Example**:",
  "```c",
  "int max = a > b ? a : b;",
  "```",
  "",
  "### Delimiters",
  "",
  "### `(`",
  "**Description**: Opens a call argument list, parameter list, cast or grouped expression.",
  "",
  "### `)`",
  "**Description**: Closes a call, parameter list, cast or grouped expression.",
  "",
  "### `[`",
  "**Description**: Opens an array declarator or subscript.",
  "",
  "### `]`",
  "**Description**: Closes an array declarator or subscript.",
  "",
  "### `\x7b`",
  "**Description**: Opens a compound statement or initializer list.",
  "",
  "### `\x7d`",
  "**Description**: Closes a compound statement or initializer list.",
  "",
  "### `,`",
  "**Description**: Separates arguments, declarators and initializers, or the comma operator.",
  "",
  "### `;`",
  "**Description**: Terminates a statement or declaration.",
  "",
  "### `:`",
  "**Description**: Follows a label or case, separates bit-field widths, and completes the conditional operator.",
  "",
  "### `.`",
  "**Description**: Member access on a structure or union value.",
  "",
  "### `#`",
  "**Description**: Introduces a preprocessor directive such as include or define.",
  "**Example**:",
  "```c",
  "#include <stdio.h>",
  "```"]

/-- The C reference as one text. -/
def cReference : String := String.intercalate "\n" cReferenceLines ++ "\n"

end Glossary.Language
