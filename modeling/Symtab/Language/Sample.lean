import Symtab.Language.Basic

/-!
# Sample programs

A short program in each language, for trying a scan without a file of one's own.
-/

set_option autoImplicit false

namespace Symtab.Language

/-- The lines joined to a text, each ended by a line feed. -/
def joinLines (lines : List String) : String :=
  String.join (lines.map (· ++ "\n"))

/-- A short program in a language. -/
def sample : Language → String
  | .javascript => joinLines
    ["// JavaScript Example",
     "let userName = \"Alice\";",
     "const PI = 3.14159;",
     "var count = 0;",
     "",
     "function calculateArea(radius) \x7b",
     "  let area = PI * radius * radius;",
     "  return area;",
     "\x7d",
     "",
     "class Circle \x7b",
     "  constructor(radius) \x7b",
     "    this.radius = radius;",
     "  \x7d",
     "",
     "  getArea() \x7b",
     "    return PI * this.radius * this.radius;",
     "  \x7d",
     "\x7d"]
  | .python => joinLines
    ["# Python Example",
     "import math",
     "",
     "user_name = \"Alice\"",
     "PI = 3.14159",
     "count = 0",
     "",
     "def calculate_area(radius):",
     "    area = PI * radius * radius",
     "    return area",
     "",
     "class Circle:",
     "    def __init__(self, radius):",
     "        self.radius = radius",
     "",
     "    def get_area(self):",
     "        return PI * self.radius * self.radius",
     "",
     "# Global variable",
     "global_var = \"Hello World\""]
  | .java => joinLines
    ["// Java Example",
     "import java.util.*;",
     "",
     "public class Calculator \x7b",
     "    private static final double PI = 3.14159;",
     "    private String userName = \"Alice\";",
     "    private int count = 0;",
     "",
     "    public double calculateArea(double radius) \x7b",
     "        double area = PI * radius * radius;",
     "        return area;",
     "    \x7d",
     "",
     "    public static void main(String[] args) \x7b",
     "        Calculator calc = new Calculator();",
     "        Scanner scanner = new Scanner(System.in);",
     "",
     "        System.out.println(\"Hello, \" + calc.userName);",
     "    \x7d",
     "\x7d"]
  | .c => joinLines
    ["// C Example",
     "#include <stdio.h>",
     "#include <math.h>",
     "",
     "#define PI 3.14159",
     "",
     "char userName[] = \"Alice\";",
     "int count = 0;",
     "",
     "double calculateArea(double radius) \x7b",
     "    double area = PI * radius * radius;",
     "    return area;",
     "\x7d",
     "",
     "int main() \x7b",
     "    double radius = 5.0;",
     "    double area = calculateArea(radius);",
     "",
     "    printf(\"Hello, %s\\n\", userName);",
     "    printf(\"Area: %.2f\\n\", area);",
     "",
     "    return 0;",
     "\x7d"]
  | .cpp => joinLines
    ["// C++ Example",
     "#include <iostream>",
     "#include <string>",
     "",
     "const double PI = 3.14159;",
     "",
     "class Circle \x7b",
     "private:",
     "    double radius;",
     "    std::string name;",
     "",
     "public:",
     "    Circle(double r, std::string n) : radius(r), name(n) \x7b\x7d",
     "",
     "    double calculateArea() \x7b",
     "        return PI * radius * radius;",
     "    \x7d",
     "",
     "    void display() \x7b",
     "        std::cout << \"Circle \" << name << \" has area: \"",
     "                  << calculateArea() << std::endl;",
     "    \x7d",
     "\x7d;",
     "",
     "int main() \x7b",
     "    Circle myCircle(5.0, \"MyCircle\");",
     "    myCircle.display();",
     "    return 0;",
     "\x7d"]
  | .csharp => joinLines
    ["// C# Example",
     "using System;",
     "",
     "namespace Calculator",
     "\x7b",
     "    public class Circle",
     "    \x7b",
     "        private const double PI = 3.14159;",
     "        private string userName = \"Alice\";",
     "        private int count = 0;",
     "",
     "        public double CalculateArea(double radius)",
     "        \x7b",
     "            double area = PI * radius * radius;",
     "            return area;",
     "        \x7d",
     "",
     "        public static void Main(string[] args)",
     "        \x7b",
     "            Circle circle = new Circle();",
     "            double area = circle.CalculateArea(5.0);",
     "",
     "            Console.WriteLine($\"Hello, \x7bcircle.userName\x7d\");",
     "            Console.WriteLine($\"Area: \x7barea\x7d\");",
     "        \x7d",
     "    \x7d",
     "\x7d"]
  | .go => joinLines
    ["// Go Example",
     "package main",
     "",
     "import (",
     "    \"fmt\"",
     "    \"math\"",
     ")",
     "",
     "const PI = 3.14159",
     "",
     "var userName string = \"Alice\"",
     "var count int = 0",
     "",
     "func calculateArea(radius float64) float64 \x7b",
     "    area := PI * radius * radius",
     "    return area",
     "\x7d",
     "",
     "type Circle struct \x7b",
     "    radius float64",
     "    name   string",
     "\x7d",
     "",
     "func (c Circle) getArea() float64 \x7b",
     "    return PI * c.radius * c.radius",
     "\x7d",
     "",
     "func main() \x7b",
     "    circle := Circle\x7bradius: 5.0, name: \"MyCircle\"\x7d",
     "    area := circle.getArea()",
     "",
     "    fmt.Printf(\"Hello, %s\\n\", userName)",
     "    fmt.Printf(\"Area: %.2f\\n\", area)",
     "\x7d"]
  | .rust => joinLines
    ["// Rust Example",
     "use std::f64::consts::PI;",
     "",
     "static USER_NAME: &str = \"Alice\";",
     "static mut COUNT: i32 = 0;",
     "",
     "fn calculate_area(radius: f64) -> f64 \x7b",
     "    let area = PI * radius * radius;",
     "    area",
     "\x7d",
     "",
     "struct Circle \x7b",
     "    radius: f64,",
     "    name: String,",
     "\x7d",
     "",
     "impl Circle \x7b",
     "    fn new(radius: f64, name: String) -> Circle \x7b",
     "        Circle \x7b radius, name \x7d",
     "    \x7d",
     "",
     "    fn get_area(&self) -> f64 \x7b",
     "        PI * self.radius * self.radius",
     "    \x7d",
     "\x7d",
     "",
     "fn main() \x7b",
     "    let circle = Circle::new(5.0, \"MyCircle\".to_string());",
     "    let area = circle.get_area();",
     "",
     "    println!(\"Hello, \x7b\x7d\", USER_NAME);",
     "    println!(\"Area: \x7b:.2\x7d\", area);",
     "\x7d"]

end Symtab.Language
