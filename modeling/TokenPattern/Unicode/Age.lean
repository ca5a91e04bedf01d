import TokenPattern.Unicode.RangeTable

/-!
# The age of a character

`releaseOf` tells in which release of the character database a character was first assigned.  A
release has two names, of which the shorter is its number.
-/

namespace TokenPattern.Unicode

/-- The releases up to the sixteenth edition, the earliest first. -/
def releases : List String :=
  items
    "V1_1 V2_0 V2_1 V3_0 V3_1 V3_2 V4_0 V4_1 V5_0 V5_1 V5_2 V6_0 V6_1 V6_2 V6_3 V7_0 V8_0 V9_0
    V10_0 V11_0 V12_0 V12_1 V13_0 V14_0 V15_0 V15_1 V16_0"

/-- The number of a release: its name without the letter in front, and with a point. -/
def releaseNumber (release : String) : String :=
  String.ofList ((release.toList.drop 1).map fun c => if c = '_' then '.' else c)

/-- The stretches of code points that were assigned in one release, by its place in `releases`. -/
def ageTable : RunTable (Option Nat) := RunTable.ofText (fun release => releases.idxOf? release)
    "0V1_1 1f6V3_0 1faV1_1 218V3_0 220V3_2 221V4_0 222V3_0 234V4_0 237V4_1 242V5_0 250V1_1 2a9V3_0
    2aeV4_0 2b0V1_1 2dfV3_0 2e0V1_1 2eaV3_0 2efV4_0 300V1_1 346V3_0 34fV3_2 350V4_0 358V4_1 35dV4_0
    360V1_1 362V3_0 363V3_2 370V5_1 374V1_1 376V5_1 378Never 37aV1_1 37bV5_0 37eV1_1 37fV7_0
    380Never 384V1_1 38bNever 38cV1_1 38dNever 38eV1_1 3a2Never 3a3V1_1 3cfV5_1 3d0V1_1 3d7V3_0
    3d8V3_2 3daV1_1 3dbV3_0 3dcV1_1 3ddV3_0 3deV1_1 3dfV3_0 3e0V1_1 3e1V3_0 3e2V1_1 3f4V3_1 3f6V3_2
    3f7V4_0 3fcV4_1 400V3_0 401V1_1 40dV3_0 40eV1_1 450V3_0 451V1_1 45dV3_0 45eV1_1 487V5_1 488V3_0
    48aV3_2 48cV3_0 490V1_1 4c5V3_2 4c7V1_1 4c9V3_2 4cbV1_1 4cdV3_2 4cfV5_0 4d0V1_1 4ecV3_0 4eeV1_1
    4f6V4_1 4f8V1_1 4faV5_0 500V3_2 510V5_0 514V5_1 524V5_2 526V6_0 528V7_0 530Never 531V1_1
    557Never 559V1_1 560V11_0 561V1_1 588V11_0 589V1_1 58aV3_0 58bNever 58dV7_0 58fV6_1 590Never
    591V2_0 5a2V4_1 5a3V2_0 5b0V1_1 5baV5_0 5bbV1_1 5c4V2_0 5c5V4_1 5c8Never 5d0V1_1 5ebNever
    5efV11_0 5f0V1_1 5f5Never 600V4_0 604V6_1 605V7_0 606V5_1 60bV4_1 60cV1_1 60dV4_0 616V5_1
    61bV1_1 61cV6_3 61dV14_0 61eV4_1 61fV1_1 620V6_0 621V1_1 63bV5_1 640V1_1 653V3_0 656V4_0
    659V4_1 65fV6_0 660V1_1 66eV3_2 670V1_1 6b8V3_0 6baV1_1 6bfV3_0 6c0V1_1 6cfV3_0 6d0V1_1 6eeV4_0
    6f0V1_1 6faV3_0 6ffV4_0 700V3_0 70eNever 70fV3_0 72dV4_0 730V3_0 74bNever 74dV4_0 750V4_1
    76eV5_1 780V3_0 7b1V3_2 7b2Never 7c0V5_0 7fbNever 7fdV11_0 800V5_2 82eNever 830V5_2 83fNever
    840V6_0 85cNever 85eV6_0 85fNever 860V10_0 86bNever 870V14_0 88fNever 890V14_0 892Never
    897V16_0 898V14_0 8a0V6_1 8a1V7_0 8a2V6_1 8adV7_0 8b3V8_0 8b5V14_0 8b6V9_0 8beV13_0 8c8V14_0
    8d3V11_0 8d4V9_0 8e3V8_0 8e4V6_1 8ffV7_0 900V5_2 901V1_1 904V4_0 905V1_1 93aV6_0 93cV1_1
    94eV5_2 94fV6_0 950V1_1 955V5_2 956V6_0 958V1_1 971V5_1 973V6_0 978V7_0 979V5_2 97bV5_0 97dV4_1
    97eV5_0 980V7_0 981V1_1 984Never 985V1_1 98dNever 98fV1_1 991Never 993V1_1 9a9Never 9aaV1_1
    9b1Never 9b2V1_1 9b3Never 9b6V1_1 9baNever 9bcV1_1 9bdV4_0 9beV1_1 9c5Never 9c7V1_1 9c9Never
    9cbV1_1 9ceV4_1 9cfNever 9d7V1_1 9d8Never 9dcV1_1 9deNever 9dfV1_1 9e4Never 9e6V1_1 9fbV5_2
    9fcV10_0 9feV11_0 9ffNever a01V4_0 a02V1_1 a03V4_0 a04Never a05V1_1 a0bNever a0fV1_1 a11Never
    a13V1_1 a29Never a2aV1_1 a31Never a32V1_1 a34Never a35V1_1 a37Never a38V1_1 a3aNever a3cV1_1
    a3dNever a3eV1_1 a43Never a47V1_1 a49Never a4bV1_1 a4eNever a51V5_1 a52Never a59V1_1 a5dNever
    a5eV1_1 a5fNever a66V1_1 a75V5_1 a76V11_0 a77Never a81V1_1 a84Never a85V1_1 a8cV4_0 a8dV1_1
    a8eNever a8fV1_1 a92Never a93V1_1 aa9Never aaaV1_1 ab1Never ab2V1_1 ab4Never ab5V1_1 abaNever
    abcV1_1 ac6Never ac7V1_1 acaNever acbV1_1 aceNever ad0V1_1 ad1Never ae0V1_1 ae1V4_0 ae4Never
    ae6V1_1 af0V6_1 af1V4_0 af2Never af9V8_0 afaV10_0 b00Never b01V1_1 b04Never b05V1_1 b0dNever
    b0fV1_1 b11Never b13V1_1 b29Never b2aV1_1 b31Never b32V1_1 b34Never b35V4_0 b36V1_1 b3aNever
    b3cV1_1 b44V5_1 b45Never b47V1_1 b49Never b4bV1_1 b4eNever b55V13_0 b56V1_1 b58Never b5cV1_1
    b5eNever b5fV1_1 b62V5_1 b64Never b66V1_1 b71V4_0 b72V6_0 b78Never b82V1_1 b84Never b85V1_1
    b8bNever b8eV1_1 b91Never b92V1_1 b96Never b99V1_1 b9bNever b9cV1_1 b9dNever b9eV1_1 ba0Never
    ba3V1_1 ba5Never ba8V1_1 babNever baeV1_1 bb6V4_1 bb7V1_1 bbaNever bbeV1_1 bc3Never bc6V1_1
    bc9Never bcaV1_1 bceNever bd0V5_1 bd1Never bd7V1_1 bd8Never be6V4_1 be7V1_1 bf3V4_0 bfbNever
    c00V7_0 c01V1_1 c04V11_0 c05V1_1 c0dNever c0eV1_1 c11Never c12V1_1 c29Never c2aV1_1 c34V7_0
    c35V1_1 c3aNever c3cV14_0 c3dV5_1 c3eV1_1 c45Never c46V1_1 c49Never c4aV1_1 c4eNever c55V1_1
    c57Never c58V5_1 c5aV8_0 c5bNever c5dV14_0 c5eNever c60V1_1 c62V5_1 c64Never c66V1_1 c70Never
    c77V12_0 c78V5_1 c80V9_0 c81V7_0 c82V1_1 c84V11_0 c85V1_1 c8dNever c8eV1_1 c91Never c92V1_1
    ca9Never caaV1_1 cb4Never cb5V1_1 cbaNever cbcV4_0 cbeV1_1 cc5Never cc6V1_1 cc9Never ccaV1_1
    cceNever cd5V1_1 cd7Never cddV14_0 cdeV1_1 cdfNever ce0V1_1 ce2V5_0 ce4Never ce6V1_1 cf0Never
    cf1V5_0 cf3V15_0 cf4Never d00V10_0 d01V7_0 d02V1_1 d04V13_0 d05V1_1 d0dNever d0eV1_1 d11Never
    d12V1_1 d29V6_0 d2aV1_1 d3aV6_0 d3bV10_0 d3dV5_1 d3eV1_1 d44V5_1 d45Never d46V1_1 d49Never
    d4aV1_1 d4eV6_0 d4fV9_0 d50Never d54V9_0 d57V1_1 d58V9_0 d5fV8_0 d60V1_1 d62V5_1 d64Never
    d66V1_1 d70V5_1 d76V9_0 d79V5_1 d80Never d81V13_0 d82V3_0 d84Never d85V3_0 d97Never d9aV3_0
    db2Never db3V3_0 dbcNever dbdV3_0 dbeNever dc0V3_0 dc7Never dcaV3_0 dcbNever dcfV3_0 dd5Never
    dd6V3_0 dd7Never dd8V3_0 de0Never de6V7_0 df0Never df2V3_0 df5Never e01V1_1 e3bNever e3fV1_1
    e5cNever e81V1_1 e83Never e84V1_1 e85Never e86V12_0 e87V1_1 e89V12_0 e8aV1_1 e8bNever e8cV12_0
    e8dV1_1 e8eV12_0 e94V1_1 e98V12_0 e99V1_1 ea0V12_0 ea1V1_1 ea4Never ea5V1_1 ea6Never ea7V1_1
    ea8V12_0 eaaV1_1 eacV12_0 eadV1_1 ebaV12_0 ebbV1_1 ebeNever ec0V1_1 ec5Never ec6V1_1 ec7Never
    ec8V1_1 eceV15_0 ecfNever ed0V1_1 edaNever edcV1_1 edeV6_1 ee0Never f00V2_0 f48Never f49V2_0
    f6aV3_0 f6bV5_1 f6dNever f71V2_0 f8cV6_0 f90V2_0 f96V3_0 f97V2_0 f98Never f99V2_0 faeV3_0
    fb1V2_0 fb8V3_0 fb9V2_0 fbaV3_0 fbdNever fbeV3_0 fcdNever fceV5_1 fcfV3_0 fd0V4_1 fd2V5_1
    fd5V5_2 fd9V6_0 fdbNever 1000V3_0 1022V5_1 1023V3_0 1028V5_1 1029V3_0 102bV5_1 102cV3_0
    1033V5_1 1036V3_0 103aV5_1 1040V3_0 105aV5_1 109aV5_2 109eV5_1 10a0V1_1 10c6Never 10c7V6_1
    10c8Never 10cdV6_1 10ceNever 10d0V1_1 10f7V3_2 10f9V4_1 10fbV1_1 10fcV4_1 10fdV6_1 1100V1_1
    115aV5_2 115fV1_1 11a3V5_2 11a8V1_1 11faV5_2 1200V3_0 1207V4_1 1208V3_0 1247V4_1 1248V3_0
    1249Never 124aV3_0 124eNever 1250V3_0 1257Never 1258V3_0 1259Never 125aV3_0 125eNever 1260V3_0
    1287V4_1 1288V3_0 1289Never 128aV3_0 128eNever 1290V3_0 12afV4_1 12b0V3_0 12b1Never 12b2V3_0
    12b6Never 12b8V3_0 12bfNever 12c0V3_0 12c1Never 12c2V3_0 12c6Never 12c8V3_0 12cfV4_1 12d0V3_0
    12d7Never 12d8V3_0 12efV4_1 12f0V3_0 130fV4_1 1310V3_0 1311Never 1312V3_0 1316Never 1318V3_0
    131fV4_1 1320V3_0 1347V4_1 1348V3_0 135bNever 135dV6_0 135fV4_1 1361V3_0 137dNever 1380V4_1
    139aNever 13a0V3_0 13f5V8_0 13f6Never 13f8V8_0 13feNever 1400V5_2 1401V3_0 1677V5_2 1680V3_0
    169dNever 16a0V3_0 16f1V7_0 16f9Never 1700V3_2 170dV14_0 170eV3_2 1715V14_0 1716Never 171fV14_0
    1720V3_2 1737Never 1740V3_2 1754Never 1760V3_2 176dNever 176eV3_2 1771Never 1772V3_2 1774Never
    1780V3_0 17ddV4_0 17deNever 17e0V3_0 17eaNever 17f0V4_0 17faNever 1800V3_0 180fV14_0 1810V3_0
    181aNever 1820V3_0 1878V11_0 1879Never 1880V3_0 18aaV5_1 18abNever 18b0V5_2 18f6Never 1900V4_0
    191dV7_0 191fNever 1920V4_0 192cNever 1930V4_0 193cNever 1940V4_0 1941Never 1944V4_0 196eNever
    1970V4_0 1975Never 1980V4_1 19aaV5_2 19acNever 19b0V4_1 19caNever 19d0V4_1 19daV5_2 19dbNever
    19deV4_1 19e0V4_0 1a00V4_1 1a1cNever 1a1eV4_1 1a20V5_2 1a5fNever 1a60V5_2 1a7dNever 1a7fV5_2
    1a8aNever 1a90V5_2 1a9aNever 1aa0V5_2 1aaeNever 1ab0V7_0 1abfV13_0 1ac1V14_0 1acfNever 1b00V5_0
    1b4cV14_0 1b4dNever 1b4eV16_0 1b50V5_0 1b7dV14_0 1b7fV16_0 1b80V5_1 1babV6_1 1baeV5_1 1bbaV6_1
    1bc0V6_0 1bf4Never 1bfcV6_0 1c00V5_1 1c38Never 1c3bV5_1 1c4aNever 1c4dV5_1 1c80V9_0 1c89V16_0
    1c8bNever 1c90V11_0 1cbbNever 1cbdV11_0 1cc0V6_1 1cc8Never 1cd0V5_2 1cf3V6_1 1cf7V10_0 1cf8V7_0
    1cfaV12_0 1cfbNever 1d00V4_0 1d6cV4_1 1dc4V5_0 1dcbV5_1 1de7V7_0 1df6V10_0 1dfaV14_0 1dfbV9_0
    1dfcV6_0 1dfdV5_2 1dfeV5_0 1e00V1_1 1e9bV2_0 1e9cV5_1 1ea0V1_1 1efaV5_1 1f00V1_1 1f16Never
    1f18V1_1 1f1eNever 1f20V1_1 1f46Never 1f48V1_1 1f4eNever 1f50V1_1 1f58Never 1f59V1_1 1f5aNever
    1f5bV1_1 1f5cNever 1f5dV1_1 1f5eNever 1f5fV1_1 1f7eNever 1f80V1_1 1fb5Never 1fb6V1_1 1fc5Never
    1fc6V1_1 1fd4Never 1fd6V1_1 1fdcNever 1fddV1_1 1ff0Never 1ff2V1_1 1ff5Never 1ff6V1_1 1fffNever
    2000V1_1 202fV3_0 2030V1_1 2047V3_2 2048V3_0 204eV3_2 2053V4_0 2055V4_1 2057V3_2 2058V4_1
    205fV3_2 2064V5_1 2065Never 2066V6_3 206aV1_1 2071V3_2 2072Never 2074V1_1 208fNever 2090V4_1
    2095V6_0 209dNever 20a0V1_1 20abV2_0 20acV2_1 20adV3_0 20b0V3_2 20b2V4_1 20b6V5_2 20b9V6_0
    20baV6_2 20bbV7_0 20beV8_0 20bfV10_0 20c0V14_0 20c1Never 20d0V1_1 20e2V3_0 20e4V3_2 20ebV4_1
    20ecV5_0 20f0V5_1 20f1Never 2100V1_1 2139V3_0 213bV4_0 213cV4_1 213dV3_2 214cV4_1 214dV5_0
    214fV5_1 2150V5_2 2153V1_1 2183V3_0 2184V5_0 2185V5_1 2189V5_2 218aV8_0 218cNever 2190V1_1
    21ebV3_0 21f4V3_2 2200V1_1 22f2V3_2 2300V1_1 2301V3_0 2302V1_1 237bV3_0 237cV3_2 237dV3_0
    239bV3_2 23cfV4_0 23d1V4_1 23dcV5_0 23e8V5_2 23e9V6_0 23f4V7_0 23fbV9_0 23ffV10_0 2400V1_1
    2425V3_0 2427V16_0 242aNever 2440V1_1 244bNever 2460V1_1 24ebV3_2 24ffV4_0 2500V1_1 2596V3_2
    25a0V1_1 25f0V3_0 25f8V3_2 2600V1_1 2614V4_0 2616V3_2 2618V4_1 2619V3_0 261aV1_1 2670V3_0
    2672V3_2 267eV4_1 2680V3_2 268aV4_0 2692V4_1 269dV5_1 269eV5_2 26a0V4_0 26a2V4_1 26b2V5_0
    26b3V5_1 26bdV5_2 26c0V5_1 26c4V5_2 26ceV6_0 26cfV5_2 26e2V6_0 26e3V5_2 26e4V6_0 26e8V5_2
    2700V7_0 2701V1_1 2705V6_0 2706V1_1 270aV6_0 270cV1_1 2728V6_0 2729V1_1 274cV6_0 274dV1_1
    274eV6_0 274fV1_1 2753V6_0 2756V1_1 2757V5_2 2758V1_1 275fV6_0 2761V1_1 2768V3_2 2776V1_1
    2795V6_0 2798V1_1 27b0V6_0 27b1V1_1 27bfV6_0 27c0V4_1 27c7V5_0 27cbV6_1 27ccV5_1 27cdV6_1
    27ceV6_0 27d0V3_2 27ecV5_1 27f0V3_2 2800V3_0 2900V3_2 2b00V4_0 2b0eV4_1 2b14V5_0 2b1bV5_1
    2b20V5_0 2b24V5_1 2b4dV7_0 2b50V5_1 2b55V5_2 2b5aV7_0 2b74Never 2b76V7_0 2b96Never 2b97V13_0
    2b98V7_0 2bbaV11_0 2bbdV7_0 2bc9V12_0 2bcaV7_0 2bd2V10_0 2bd3V11_0 2becV8_0 2bf0V11_0 2bffV12_0
    2c00V4_1 2c2fV14_0 2c30V4_1 2c5fV14_0 2c60V5_0 2c6dV5_1 2c70V5_2 2c71V5_1 2c74V5_0 2c78V5_1
    2c7eV5_2 2c80V4_1 2cebV5_2 2cf2V6_1 2cf4Never 2cf9V4_1 2d26Never 2d27V6_1 2d28Never 2d2dV6_1
    2d2eNever 2d30V4_1 2d66V6_1 2d68Never 2d6fV4_1 2d70V6_0 2d71Never 2d7fV6_0 2d80V4_1 2d97Never
    2da0V4_1 2da7Never 2da8V4_1 2dafNever 2db0V4_1 2db7Never 2db8V4_1 2dbfNever 2dc0V4_1 2dc7Never
    2dc8V4_1 2dcfNever 2dd0V4_1 2dd7Never 2dd8V4_1 2ddfNever 2de0V5_1 2e00V4_1 2e18V5_1 2e1cV4_1
    2e1eV5_1 2e31V5_2 2e32V6_1 2e3cV7_0 2e43V9_0 2e45V10_0 2e4aV11_0 2e4fV12_0 2e50V13_0 2e53V14_0
    2e5eNever 2e80V3_0 2e9aNever 2e9bV3_0 2ef4Never 2f00V3_0 2fd6Never 2ff0V3_0 2ffcV15_1 3000V1_1
    3038V3_0 303bV3_2 303eV3_0 303fV1_1 3040Never 3041V1_1 3095V3_2 3097Never 3099V1_1 309fV3_2
    30a1V1_1 30ffV3_2 3100Never 3105V1_1 312dV5_1 312eV10_0 312fV11_0 3130Never 3131V1_1 318fNever
    3190V1_1 31a0V3_0 31b8V6_0 31bbV13_0 31c0V4_1 31d0V5_1 31e4V16_0 31e6Never 31efV15_1 31f0V3_2
    3200V1_1 321dV4_0 321fNever 3220V1_1 3244V5_2 3250V4_0 3251V3_2 3260V1_1 327cV4_0 327eV4_1
    327fV1_1 32b1V3_2 32c0V1_1 32ccV4_0 32d0V1_1 32ffV12_1 3300V1_1 3377V4_0 337bV1_1 33deV4_0
    33e0V1_1 33ffV4_0 3400V3_0 4db6V13_0 4dc0V4_0 4e00V1_1 9fa6V4_1 9fbcV5_1 9fc4V5_2 9fccV6_1
    9fcdV8_0 9fd6V10_0 9febV11_0 9ff0V13_0 9ffdV14_0 a000V3_0 a48dNever a490V3_0 a4a2V3_2 a4a4V3_0
    a4b4V3_2 a4b5V3_0 a4c1V3_2 a4c2V3_0 a4c5V3_2 a4c6V3_0 a4c7Never a4d0V5_2 a500V5_1 a62cNever
    a640V5_1 a660V6_0 a662V5_1 a674V6_1 a67cV5_1 a698V7_0 a69eV8_0 a69fV6_1 a6a0V5_2 a6f8Never
    a700V4_1 a717V5_0 a71bV5_1 a720V5_0 a722V5_1 a78dV6_0 a78fV8_0 a790V6_0 a792V6_1 a794V7_0
    a7a0V6_0 a7aaV6_1 a7abV7_0 a7aeV9_0 a7afV11_0 a7b0V7_0 a7b2V8_0 a7b8V11_0 a7baV12_0 a7c0V14_0
    a7c2V12_0 a7c7V13_0 a7cbV16_0 a7ceNever a7d0V14_0 a7d2Never a7d3V14_0 a7d4Never a7d5V14_0
    a7daV16_0 a7ddNever a7f2V14_0 a7f5V13_0 a7f7V7_0 a7f8V6_1 a7faV6_0 a7fbV5_1 a800V4_1 a82cV13_0
    a82dNever a830V5_2 a83aNever a840V5_0 a878Never a880V5_1 a8c5V9_0 a8c6Never a8ceV5_1 a8daNever
    a8e0V5_2 a8fcV8_0 a8feV11_0 a900V5_1 a954Never a95fV5_1 a960V5_2 a97dNever a980V5_2 a9ceNever
    a9cfV5_2 a9daNever a9deV5_2 a9e0V7_0 a9ffNever aa00V5_1 aa37Never aa40V5_1 aa4eNever aa50V5_1
    aa5aNever aa5cV5_1 aa60V5_2 aa7cV7_0 aa80V5_2 aac3Never aadbV5_2 aae0V6_1 aaf7Never ab01V6_0
    ab07Never ab09V6_0 ab0fNever ab11V6_0 ab17Never ab20V6_0 ab27Never ab28V6_0 ab2fNever ab30V7_0
    ab60V8_0 ab64V7_0 ab66V12_0 ab68V13_0 ab6cNever ab70V8_0 abc0V5_2 abeeNever abf0V5_2 abfaNever
    ac00V2_0 d7a4Never d7b0V5_2 d7c7Never d7cbV5_2 d7fcNever e000V1_1 fa2eV6_1 fa30V3_2 fa6bV5_2
    fa6eNever fa70V4_1 fadaNever fb00V1_1 fb07Never fb13V1_1 fb18Never fb1dV3_0 fb1eV1_1 fb37Never
    fb38V1_1 fb3dNever fb3eV1_1 fb3fNever fb40V1_1 fb42Never fb43V1_1 fb45Never fb46V1_1 fbb2V6_0
    fbc2V14_0 fbc3Never fbd3V1_1 fd40V14_0 fd50V1_1 fd90Never fd92V1_1 fdc8Never fdcfV14_0 fdd0V3_1
    fdf0V1_1 fdfcV3_2 fdfdV4_0 fdfeV14_0 fe00V3_2 fe10V4_1 fe1aNever fe20V1_1 fe24V5_1 fe27V7_0
    fe2eV8_0 fe30V1_1 fe45V3_2 fe47V4_0 fe49V1_1 fe53Never fe54V1_1 fe67Never fe68V1_1 fe6cNever
    fe70V1_1 fe73V3_2 fe74V1_1 fe75Never fe76V1_1 fefdNever feffV1_1 ff00Never ff01V1_1 ff5fV3_2
    ff61V1_1 ffbfNever ffc2V1_1 ffc8Never ffcaV1_1 ffd0Never ffd2V1_1 ffd8Never ffdaV1_1 ffddNever
    ffe0V1_1 ffe7Never ffe8V1_1 ffefNever fff9V3_0 fffcV2_1 fffdV1_1 10000V4_0 1000cNever 1000dV4_0
    10027Never 10028V4_0 1003bNever 1003cV4_0 1003eNever 1003fV4_0 1004eNever 10050V4_0 1005eNever
    10080V4_0 100fbNever 10100V4_0 10103Never 10107V4_0 10134Never 10137V4_0 10140V4_1 1018bV7_0
    1018dV9_0 1018fNever 10190V5_1 1019cV13_0 1019dNever 101a0V7_0 101a1Never 101d0V5_1 101feNever
    10280V5_1 1029dNever 102a0V5_1 102d1Never 102e0V7_0 102fcNever 10300V3_1 1031fV7_0 10320V3_1
    10324Never 1032dV10_0 10330V3_1 1034bNever 10350V7_0 1037bNever 10380V4_0 1039eNever 1039fV4_0
    103a0V4_1 103c4Never 103c8V4_1 103d6Never 10400V3_1 10426V4_0 10428V3_1 1044eV4_0 1049eNever
    104a0V4_0 104aaNever 104b0V9_0 104d4Never 104d8V9_0 104fcNever 10500V7_0 10528Never 10530V7_0
    10564Never 1056fV7_0 10570V14_0 1057bNever 1057cV14_0 1058bNever 1058cV14_0 10593Never
    10594V14_0 10596Never 10597V14_0 105a2Never 105a3V14_0 105b2Never 105b3V14_0 105baNever
    105bbV14_0 105bdNever 105c0V16_0 105f4Never 10600V7_0 10737Never 10740V7_0 10756Never 10760V7_0
    10768Never 10780V14_0 10786Never 10787V14_0 107b1Never 107b2V14_0 107bbNever 10800V4_0
    10806Never 10808V4_0 10809Never 1080aV4_0 10836Never 10837V4_0 10839Never 1083cV4_0 1083dNever
    1083fV4_0 10840V5_2 10856Never 10857V5_2 10860V7_0 1089fNever 108a7V7_0 108b0Never 108e0V8_0
    108f3Never 108f4V8_0 108f6Never 108fbV8_0 10900V5_0 1091aV5_2 1091cNever 1091fV5_0 10920V5_1
    1093aNever 1093fV5_1 10940Never 10980V6_1 109b8Never 109bcV8_0 109beV6_1 109c0V8_0 109d0Never
    109d2V8_0 10a00V4_1 10a04Never 10a05V4_1 10a07Never 10a0cV4_1 10a14Never 10a15V4_1 10a18Never
    10a19V4_1 10a34V11_0 10a36Never 10a38V4_1 10a3bNever 10a3fV4_1 10a48V11_0 10a49Never 10a50V4_1
    10a59Never 10a60V5_2 10a80V7_0 10aa0Never 10ac0V7_0 10ae7Never 10aebV7_0 10af7Never 10b00V5_2
    10b36Never 10b39V5_2 10b56Never 10b58V5_2 10b73Never 10b78V5_2 10b80V7_0 10b92Never 10b99V7_0
    10b9dNever 10ba9V7_0 10bb0Never 10c00V5_2 10c49Never 10c80V8_0 10cb3Never 10cc0V8_0 10cf3Never
    10cfaV8_0 10d00V11_0 10d28Never 10d30V11_0 10d3aNever 10d40V16_0 10d66Never 10d69V16_0
    10d86Never 10d8eV16_0 10d90Never 10e60V5_2 10e7fNever 10e80V13_0 10eaaNever 10eabV13_0
    10eaeNever 10eb0V13_0 10eb2Never 10ec2V16_0 10ec5Never 10efcV16_0 10efdV15_0 10f00V11_0
    10f28Never 10f30V11_0 10f5aNever 10f70V14_0 10f8aNever 10fb0V13_0 10fccNever 10fe0V12_0
    10ff7Never 11000V6_0 1104eNever 11052V6_0 11070V14_0 11076Never 1107fV7_0 11080V5_2 110c2V14_0
    110c3Never 110cdV11_0 110ceNever 110d0V6_1 110e9Never 110f0V6_1 110faNever 11100V6_1 11135Never
    11136V6_1 11144V11_0 11147V13_0 11148Never 11150V7_0 11177Never 11180V6_1 111c9V8_0 111cdV7_0
    111ceV13_0 111d0V6_1 111daV7_0 111dbV8_0 111e0Never 111e1V7_0 111f5Never 11200V7_0 11212Never
    11213V7_0 1123eV9_0 1123fV15_0 11242Never 11280V8_0 11287Never 11288V8_0 11289Never 1128aV8_0
    1128eNever 1128fV8_0 1129eNever 1129fV8_0 112aaNever 112b0V7_0 112ebNever 112f0V7_0 112faNever
    11300V8_0 11301V7_0 11304Never 11305V7_0 1130dNever 1130fV7_0 11311Never 11313V7_0 11329Never
    1132aV7_0 11331Never 11332V7_0 11334Never 11335V7_0 1133aNever 1133bV11_0 1133cV7_0 11345Never
    11347V7_0 11349Never 1134bV7_0 1134eNever 11350V8_0 11351Never 11357V7_0 11358Never 1135dV7_0
    11364Never 11366V7_0 1136dNever 11370V7_0 11375Never 11380V16_0 1138aNever 1138bV16_0
    1138cNever 1138eV16_0 1138fNever 11390V16_0 113b6Never 113b7V16_0 113c1Never 113c2V16_0
    113c3Never 113c5V16_0 113c6Never 113c7V16_0 113cbNever 113ccV16_0 113d6Never 113d7V16_0
    113d9Never 113e1V16_0 113e3Never 11400V9_0 1145aV13_0 1145bV9_0 1145cNever 1145dV9_0 1145eV11_0
    1145fV12_0 11460V13_0 11462Never 11480V7_0 114c8Never 114d0V7_0 114daNever 11580V7_0 115b6Never
    115b8V7_0 115caV8_0 115deNever 11600V7_0 11645Never 11650V7_0 1165aNever 11660V9_0 1166dNever
    11680V6_1 116b8V12_0 116b9V14_0 116baNever 116c0V6_1 116caNever 116d0V16_0 116e4Never 11700V8_0
    1171aV11_0 1171bNever 1171dV8_0 1172cNever 11730V8_0 11740V14_0 11747Never 11800V11_0
    1183cNever 118a0V7_0 118f3Never 118ffV7_0 11900V13_0 11907Never 11909V13_0 1190aNever
    1190cV13_0 11914Never 11915V13_0 11917Never 11918V13_0 11936Never 11937V13_0 11939Never
    1193bV13_0 11947Never 11950V13_0 1195aNever 119a0V12_0 119a8Never 119aaV12_0 119d8Never
    119daV12_0 119e5Never 11a00V10_0 11a48Never 11a50V10_0 11a84V12_0 11a86V10_0 11a9dV11_0
    11a9eV10_0 11aa3Never 11ab0V14_0 11ac0V7_0 11af9Never 11b00V15_0 11b0aNever 11bc0V16_0
    11be2Never 11bf0V16_0 11bfaNever 11c00V9_0 11c09Never 11c0aV9_0 11c37Never 11c38V9_0 11c46Never
    11c50V9_0 11c6dNever 11c70V9_0 11c90Never 11c92V9_0 11ca8Never 11ca9V9_0 11cb7Never 11d00V10_0
    11d07Never 11d08V10_0 11d0aNever 11d0bV10_0 11d37Never 11d3aV10_0 11d3bNever 11d3cV10_0
    11d3eNever 11d3fV10_0 11d48Never 11d50V10_0 11d5aNever 11d60V11_0 11d66Never 11d67V11_0
    11d69Never 11d6aV11_0 11d8fNever 11d90V11_0 11d92Never 11d93V11_0 11d99Never 11da0V11_0
    11daaNever 11ee0V11_0 11ef9Never 11f00V15_0 11f11Never 11f12V15_0 11f3bNever 11f3eV15_0
    11f5aV16_0 11f5bNever 11fb0V13_0 11fb1Never 11fc0V12_0 11ff2Never 11fffV12_0 12000V5_0
    1236fV7_0 12399V8_0 1239aNever 12400V5_0 12463V7_0 1246fNever 12470V5_0 12474V7_0 12475Never
    12480V8_0 12544Never 12f90V14_0 12ff3Never 13000V5_2 1342fV15_0 13430V12_0 13439V15_0
    13456Never 13460V16_0 143fbNever 14400V8_0 14647Never 16100V16_0 1613aNever 16800V6_0
    16a39Never 16a40V7_0 16a5fNever 16a60V7_0 16a6aNever 16a6eV7_0 16a70V14_0 16abfNever 16ac0V14_0
    16acaNever 16ad0V7_0 16aeeNever 16af0V7_0 16af6Never 16b00V7_0 16b46Never 16b50V7_0 16b5aNever
    16b5bV7_0 16b62Never 16b63V7_0 16b78Never 16b7dV7_0 16b90Never 16d40V16_0 16d7aNever 16e40V11_0
    16e9bNever 16f00V6_1 16f45V12_0 16f4bNever 16f4fV12_0 16f50V6_1 16f7fV12_0 16f88Never 16f8fV6_1
    16fa0Never 16fe0V9_0 16fe1V10_0 16fe2V12_0 16fe4V13_0 16fe5Never 16ff0V13_0 16ff2Never
    17000V9_0 187edV11_0 187f2V12_0 187f8Never 18800V9_0 18af3V13_0 18cd6Never 18cffV16_0
    18d00V13_0 18d09Never 1aff0V14_0 1aff4Never 1aff5V14_0 1affcNever 1affdV14_0 1afffNever
    1b000V6_0 1b002V10_0 1b11fV14_0 1b123Never 1b132V15_0 1b133Never 1b150V12_0 1b153Never
    1b155V15_0 1b156Never 1b164V12_0 1b168Never 1b170V10_0 1b2fcNever 1bc00V7_0 1bc6bNever
    1bc70V7_0 1bc7dNever 1bc80V7_0 1bc89Never 1bc90V7_0 1bc9aNever 1bc9cV7_0 1bca4Never 1cc00V16_0
    1ccfaNever 1cd00V16_0 1ceb4Never 1cf00V14_0 1cf2eNever 1cf30V14_0 1cf47Never 1cf50V14_0
    1cfc4Never 1d000V3_1 1d0f6Never 1d100V3_1 1d127Never 1d129V5_1 1d12aV3_1 1d1deV8_0 1d1e9V14_0
    1d1ebNever 1d200V4_1 1d246Never 1d2c0V15_0 1d2d4Never 1d2e0V11_0 1d2f4Never 1d300V4_0
    1d357Never 1d360V5_0 1d372V11_0 1d379Never 1d400V3_1 1d455Never 1d456V3_1 1d49dNever 1d49eV3_1
    1d4a0Never 1d4a2V3_1 1d4a3Never 1d4a5V3_1 1d4a7Never 1d4a9V3_1 1d4adNever 1d4aeV3_1 1d4baNever
    1d4bbV3_1 1d4bcNever 1d4bdV3_1 1d4c1V4_0 1d4c2V3_1 1d4c4Never 1d4c5V3_1 1d506Never 1d507V3_1
    1d50bNever 1d50dV3_1 1d515Never 1d516V3_1 1d51dNever 1d51eV3_1 1d53aNever 1d53bV3_1 1d53fNever
    1d540V3_1 1d545Never 1d546V3_1 1d547Never 1d54aV3_1 1d551Never 1d552V3_1 1d6a4V4_1 1d6a6Never
    1d6a8V3_1 1d7caV5_0 1d7ccNever 1d7ceV3_1 1d800V8_0 1da8cNever 1da9bV8_0 1daa0Never 1daa1V8_0
    1dab0Never 1df00V14_0 1df1fNever 1df25V15_0 1df2bNever 1e000V9_0 1e007Never 1e008V9_0
    1e019Never 1e01bV9_0 1e022Never 1e023V9_0 1e025Never 1e026V9_0 1e02bNever 1e030V15_0 1e06eNever
    1e08fV15_0 1e090Never 1e100V12_0 1e12dNever 1e130V12_0 1e13eNever 1e140V12_0 1e14aNever
    1e14eV12_0 1e150Never 1e290V14_0 1e2afNever 1e2c0V12_0 1e2faNever 1e2ffV12_0 1e300Never
    1e4d0V15_0 1e4faNever 1e5d0V16_0 1e5fbNever 1e5ffV16_0 1e600Never 1e7e0V14_0 1e7e7Never
    1e7e8V14_0 1e7ecNever 1e7edV14_0 1e7efNever 1e7f0V14_0 1e7ffNever 1e800V7_0 1e8c5Never
    1e8c7V7_0 1e8d7Never 1e900V9_0 1e94bV12_0 1e94cNever 1e950V9_0 1e95aNever 1e95eV9_0 1e960Never
    1ec71V11_0 1ecb5Never 1ed01V12_0 1ed3eNever 1ee00V6_1 1ee04Never 1ee05V6_1 1ee20Never 1ee21V6_1
    1ee23Never 1ee24V6_1 1ee25Never 1ee27V6_1 1ee28Never 1ee29V6_1 1ee33Never 1ee34V6_1 1ee38Never
    1ee39V6_1 1ee3aNever 1ee3bV6_1 1ee3cNever 1ee42V6_1 1ee43Never 1ee47V6_1 1ee48Never 1ee49V6_1
    1ee4aNever 1ee4bV6_1 1ee4cNever 1ee4dV6_1 1ee50Never 1ee51V6_1 1ee53Never 1ee54V6_1 1ee55Never
    1ee57V6_1 1ee58Never 1ee59V6_1 1ee5aNever 1ee5bV6_1 1ee5cNever 1ee5dV6_1 1ee5eNever 1ee5fV6_1
    1ee60Never 1ee61V6_1 1ee63Never 1ee64V6_1 1ee65Never 1ee67V6_1 1ee6bNever 1ee6cV6_1 1ee73Never
    1ee74V6_1 1ee78Never 1ee79V6_1 1ee7dNever 1ee7eV6_1 1ee7fNever 1ee80V6_1 1ee8aNever 1ee8bV6_1
    1ee9cNever 1eea1V6_1 1eea4Never 1eea5V6_1 1eeaaNever 1eeabV6_1 1eebcNever 1eef0V6_1 1eef2Never
    1f000V5_1 1f02cNever 1f030V5_1 1f094Never 1f0a0V6_0 1f0afNever 1f0b1V6_0 1f0bfV7_0 1f0c0Never
    1f0c1V6_0 1f0d0Never 1f0d1V6_0 1f0e0V7_0 1f0f6Never 1f100V5_2 1f10bV7_0 1f10dV13_0 1f110V5_2
    1f12fV11_0 1f130V6_0 1f131V5_2 1f132V6_0 1f13dV5_2 1f13eV6_0 1f13fV5_2 1f140V6_0 1f142V5_2
    1f143V6_0 1f146V5_2 1f147V6_0 1f14aV5_2 1f14fV6_0 1f157V5_2 1f158V6_0 1f15fV5_2 1f160V6_0
    1f16aV6_1 1f16cV12_0 1f16dV13_0 1f170V6_0 1f179V5_2 1f17aV6_0 1f17bV5_2 1f17dV6_0 1f17fV5_2
    1f180V6_0 1f18aV5_2 1f18eV6_0 1f190V5_2 1f191V6_0 1f19bV9_0 1f1adV13_0 1f1aeNever 1f1e6V6_0
    1f200V5_2 1f201V6_0 1f203Never 1f210V5_2 1f232V6_0 1f23bV9_0 1f23cNever 1f240V5_2 1f249Never
    1f250V6_0 1f252Never 1f260V10_0 1f266Never 1f300V6_0 1f321V7_0 1f32dV8_0 1f330V6_0 1f336V7_0
    1f337V6_0 1f37dV7_0 1f37eV8_0 1f380V6_0 1f394V7_0 1f3a0V6_0 1f3c5V7_0 1f3c6V6_0 1f3cbV7_0
    1f3cfV8_0 1f3d4V7_0 1f3e0V6_0 1f3f1V7_0 1f3f8V8_0 1f400V6_0 1f43fV7_0 1f440V6_0 1f441V7_0
    1f442V6_0 1f4f8V7_0 1f4f9V6_0 1f4fdV7_0 1f4ffV8_0 1f500V6_0 1f53eV7_0 1f540V6_1 1f544V7_0
    1f54bV8_0 1f550V6_0 1f568V7_0 1f57aV9_0 1f57bV7_0 1f5a4V9_0 1f5a5V7_0 1f5fbV6_0 1f600V6_1
    1f601V6_0 1f611V6_1 1f612V6_0 1f615V6_1 1f616V6_0 1f617V6_1 1f618V6_0 1f619V6_1 1f61aV6_0
    1f61bV6_1 1f61cV6_0 1f61fV6_1 1f620V6_0 1f626V6_1 1f628V6_0 1f62cV6_1 1f62dV6_0 1f62eV6_1
    1f630V6_0 1f634V6_1 1f635V6_0 1f641V7_0 1f643V8_0 1f645V6_0 1f650V7_0 1f680V6_0 1f6c6V7_0
    1f6d0V8_0 1f6d1V9_0 1f6d3V10_0 1f6d5V12_0 1f6d6V13_0 1f6d8Never 1f6dcV15_0 1f6ddV14_0 1f6e0V7_0
    1f6edNever 1f6f0V7_0 1f6f4V9_0 1f6f7V10_0 1f6f9V11_0 1f6faV12_0 1f6fbV13_0 1f6fdNever 1f700V6_0
    1f774V15_0 1f777Never 1f77bV15_0 1f780V7_0 1f7d5V11_0 1f7d9V15_0 1f7daNever 1f7e0V12_0
    1f7ecNever 1f7f0V14_0 1f7f1Never 1f800V7_0 1f80cNever 1f810V7_0 1f848Never 1f850V7_0 1f85aNever
    1f860V7_0 1f888Never 1f890V7_0 1f8aeNever 1f8b0V13_0 1f8b2V16_0 1f8bcNever 1f8c0V16_0
    1f8c2Never 1f900V10_0 1f90cV13_0 1f90dV12_0 1f910V8_0 1f919V9_0 1f91fV10_0 1f920V9_0 1f928V10_0
    1f930V9_0 1f931V10_0 1f933V9_0 1f93fV12_0 1f940V9_0 1f94cV10_0 1f94dV11_0 1f950V9_0 1f95fV10_0
    1f96cV11_0 1f971V12_0 1f972V13_0 1f973V11_0 1f977V13_0 1f979V14_0 1f97aV11_0 1f97bV12_0
    1f97cV11_0 1f980V8_0 1f985V9_0 1f992V10_0 1f998V11_0 1f9a3V13_0 1f9a5V12_0 1f9abV13_0
    1f9aeV12_0 1f9b0V11_0 1f9baV12_0 1f9c0V8_0 1f9c1V11_0 1f9c3V12_0 1f9cbV13_0 1f9ccV14_0
    1f9cdV12_0 1f9d0V10_0 1f9e7V11_0 1fa00V12_0 1fa54Never 1fa60V11_0 1fa6eNever 1fa70V12_0
    1fa74V13_0 1fa75V15_0 1fa78V12_0 1fa7bV14_0 1fa7dNever 1fa80V12_0 1fa83V13_0 1fa87V15_0
    1fa89V16_0 1fa8aNever 1fa8fV16_0 1fa90V12_0 1fa96V13_0 1faa9V14_0 1faadV15_0 1fab0V13_0
    1fab7V14_0 1fabbV15_0 1fabeV16_0 1fabfV15_0 1fac0V13_0 1fac3V14_0 1fac6V16_0 1fac7Never
    1faceV15_0 1fad0V13_0 1fad7V14_0 1fadaV15_0 1fadcV16_0 1faddNever 1fadfV16_0 1fae0V14_0
    1fae8V15_0 1fae9V16_0 1faeaNever 1faf0V14_0 1faf7V15_0 1faf9Never 1fb00V13_0 1fb93Never
    1fb94V13_0 1fbcbV16_0 1fbf0V13_0 1fbfaNever 1fffeV2_0 20000V3_1 2a6d7V13_0 2a6deV14_0
    2a6e0Never 2a700V5_2 2b735V14_0 2b739V15_0 2b73aNever 2b740V6_0 2b81eNever 2b820V8_0 2cea2Never
    2ceb0V10_0 2ebe1Never 2ebf0V15_1 2ee5eNever 2f800V3_1 2fa1eNever 2fffeV2_0 30000V13_0
    3134bNever 31350V15_0 323b0Never 3fffeV2_0 40000Never 4fffeV2_0 50000Never 5fffeV2_0 60000Never
    6fffeV2_0 70000Never 7fffeV2_0 80000Never 8fffeV2_0 90000Never 9fffeV2_0 a0000Never afffeV2_0
    b0000Never bfffeV2_0 c0000Never cfffeV2_0 d0000Never dfffeV2_0 e0000Never e0001V3_1 e0002Never
    e0020V3_1 e0080Never e0100V4_0 e01f0Never efffeV2_0"

/-- The place in `releases` of the first release with a character, if one has it. -/
def releaseOf (c : Char) : Option Nat := ageTable.lookup c.toNat

/-- Whether a character was assigned by the release with an index. -/
def isAssignedBy (release : Nat) (c : Char) : Bool := (releaseOf c).any (· ≤ release)

/-- What is assigned stays assigned. -/
theorem isAssignedBy_mono {first later : Nat} (h : first ≤ later) {c : Char}
    (hc : isAssignedBy first c = true) : isAssignedBy later c = true := by
  simp only [isAssignedBy, Option.any_eq_true, decide_eq_true_eq] at hc ⊢
  obtain ⟨release, found, early⟩ := hc
  exact ⟨release, found, Nat.le_trans early h⟩

end TokenPattern.Unicode
